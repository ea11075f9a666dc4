import OrderedScope.Proofs.Outcome
import OrderedScope.Resolution

/-!
# The Scan of the Contexts

A resolver puts one question to its contexts, in order, until one of them answers. Here the scan is
followed position by position: `Passed` says that some contexts were asked and did not answer,
`Reaches` that the scan came to a position, `Picks` that it ended there with an answer. A scan ends
in exactly one of three ways, and the end of a search follows from the end of its scan.

## Main results

* `Resolver.scan_cases`: a scan picks a position, fails at a position, or passes all contexts.
* `Resolver.search_of_picks`, `Resolver.search_of_fails`, `Resolver.search_of_passed`: the outcome
  of a search in each of the three cases.
* `Resolver.Picks.unique`: a scan picks at most one position.
* `Resolver.Reaches.part`: two questions that part only at contexts of a certain kind reach the same
  positions up to the first of that kind.
* `Resolver.search_congr`: contexts behind the one at which a scan ends do not matter.
-/

namespace OrderedScope.Resolver

variable {α : Type} {ask : Value → Run (Option α)}

/-- Contexts that were asked one after the other, from a world to a world, and
**did not answer**. -/
inductive Passed (ask : Value → Run (Option α)) : List (Group × Value) → World → World → Prop
  | nil (w : World) : Passed ask [] w w
  | cons {g : Group} {context : Value} {rest : List (Group × Value)} {w w₁ w₂ : World} :
      (ask context).outcome w = (.ok none, w₁) → Passed ask rest w₁ w₂ →
      Passed ask ((g, context) :: rest) w w₂

/-- The scan of a resolver **reaches** the context of a position in a world: the contexts before it
did not answer. -/
structure Reaches (r : Resolver) (ask : Value → Run (Option α)) (w : World) (i : Nat) (g : Group)
    (context : Value) (w₁ : World) : Prop where
  entry : r.contexts[i]? = some (g, context)
  passed : Passed ask (r.contexts.take i) w w₁

/-- The scan of a resolver **picks** a position: it reaches the context there, which answers. -/
def Picks (r : Resolver) (ask : Value → Run (Option α)) (w : World) (i : Nat) (g : Group)
    (context : Value) (a : α) (w₂ : World) : Prop :=
  ∃ w₁, r.Reaches ask w i g context w₁ ∧ (ask context).outcome w₁ = (.ok (some a), w₂)

/-! ### Passing -/

/-- Passing is passing along another question that leaves the same contexts without an answer. -/
theorem Passed.imp {β : Type} {ask' : Value → Run (Option β)} {l : List (Group × Value)}
    {w w' : World}
    (silent : ∀ context w w₁, (ask context).outcome w = (.ok none, w₁) →
      (ask' context).outcome w = (.ok none, w₁))
    (h : Passed ask l w w') : Passed ask' l w w' := by
  induction h with
  | nil w => exact Passed.nil w
  | cons hask _ ih => exact Passed.cons (silent _ _ _ hask) ih

/-- A longer scan passed the contexts of a shorter one first. -/
theorem Passed.split {l m : List (Group × Value)} {w w₂ : World}
    (h : Passed ask (l ++ m) w w₂) : ∃ w₁, Passed ask l w w₁ ∧ Passed ask m w₁ w₂ := by
  induction l generalizing w with
  | nil => exact ⟨w, Passed.nil w, h⟩
  | cons e rest ih =>
      cases h with
      | cons hask hrest =>
          obtain ⟨w₁, hl, hm⟩ := ih hrest
          exact ⟨w₁, Passed.cons hask hl, hm⟩

/-- Contexts behind those that were passed can be passed **from where these led**. -/
theorem Passed.append {l m : List (Group × Value)} {w w₁ w₂ : World} (h : Passed ask l w w₁)
    (h' : Passed ask m w₁ w₂) : Passed ask (l ++ m) w w₂ := by
  induction h with
  | nil w => exact h'
  | cons hask _ ih => exact Passed.cons hask (ih h')

/-- Passing leads to **one** world. -/
theorem Passed.unique {l : List (Group × Value)} {w w₁ w₂ : World} (h : Passed ask l w w₁)
    (h' : Passed ask l w w₂) : w₁ = w₂ := by
  induction h with
  | nil w =>
      cases h'
      rfl
  | cons hask _ ih =>
      cases h' with
      | cons hask' hrest' =>
          cases hask.symm.trans hask'
          exact ih hrest'

/-- Two questions that part **only at contexts of a certain kind** pass the same contexts up to the
first of that kind. -/
theorem Passed.part {β : Type} {ask' : Value → Run (Option β)} {parts : Value → World → Prop}
    {l : List (Group × Value)} {w w' : World}
    (silent : ∀ context w w₁, (ask context).outcome w = (.ok none, w₁) →
      (ask' context).outcome w = (.ok none, w₁) ∨ parts context w)
    (h : Passed ask l w w') :
    Passed ask' l w w' ∨ ∃ i g context w₁, l[i]? = some (g, context) ∧
      Passed ask (l.take i) w w₁ ∧ Passed ask' (l.take i) w w₁ ∧ parts context w₁ := by
  induction h with
  | nil w => exact Or.inl (Passed.nil w)
  | @cons g context rest w w₁ w₂ hask _ ih =>
      rcases silent context w w₁ hask with hask' | hparts
      · rcases ih with hrest | ⟨i, g', c, w₃, hi, hp, hp', hparts⟩
        · exact Or.inl (Passed.cons hask' hrest)
        · exact Or.inr ⟨i + 1, g', c, w₃, hi, Passed.cons hask hp, Passed.cons hask' hp', hparts⟩
      · exact Or.inr ⟨0, g, context, w, rfl, Passed.nil w, Passed.nil w, hparts⟩

/-- A scan that passes contexts goes on **behind them**, at the next position. -/
theorem firstAnswer_append {l m : List (Group × Value)} {w w₁ : World} (h : Passed ask l w w₁)
    (n : Nat) :
    (firstAnswer ask ((l ++ m).zipIdx n)).outcome w =
      (firstAnswer ask (m.zipIdx (n + l.length))).outcome w₁ := by
  induction h generalizing n with
  | nil w => rfl
  | cons hask _ ih =>
      rw [List.cons_append, List.zipIdx_cons, firstAnswer_cons, Run.outcome_bind_of_ok hask]
      simp only
      rw [ih (n + 1), List.length_cons]
      congr 3
      omega

/-- Contexts are passed, or one of them ends the scan by an answer or by an error. -/
theorem passed_or_stopped (ask : Value → Run (Option α)) (l : List (Group × Value)) (w : World) :
    (∃ w', Passed ask l w w') ∨
      ∃ i g context w₁, l[i]? = some (g, context) ∧ Passed ask (l.take i) w w₁ ∧
        ((∃ a w₂, (ask context).outcome w₁ = (.ok (some a), w₂)) ∨
          ∃ f w₂, (ask context).outcome w₁ = (.error f, w₂)) := by
  induction l generalizing w with
  | nil => exact Or.inl ⟨w, Passed.nil w⟩
  | cons e rest ih =>
      obtain ⟨g, context⟩ := e
      rcases hask : (ask context).outcome w with ⟨f | _ | a, w₁⟩
      · exact Or.inr ⟨0, g, context, w, rfl, Passed.nil w, Or.inr ⟨f, w₁, hask⟩⟩
      · rcases ih w₁ with ⟨w', h⟩ | ⟨i, g', context', w₂, hi, hp, h⟩
        · exact Or.inl ⟨w', Passed.cons hask h⟩
        · exact Or.inr ⟨i + 1, g', context', w₂, hi, Passed.cons hask hp, h⟩
      · exact Or.inr ⟨0, g, context, w, rfl, Passed.nil w, Or.inl ⟨a, w₁, hask⟩⟩

/-! ### Reaching -/

variable {r : Resolver} {w : World} {i : Nat} {g : Group} {context : Value} {w₁ w₂ : World}

/-- A context that is reached stands **at its place** among the contexts. -/
theorem Reaches.contexts_eq (h : r.Reaches ask w i g context w₁) :
    r.contexts = r.contexts.take i ++ (g, context) :: r.contexts.drop (i + 1) := by
  obtain ⟨hi, he⟩ := List.getElem?_eq_some_iff.1 h.entry
  rw [← he, ← List.drop_eq_getElem_cons hi, List.take_append_drop]

/-- The place of a context that is reached is one of the places. -/
theorem Reaches.lt_length (h : r.Reaches ask w i g context w₁) : i < r.contexts.length :=
  (List.getElem?_eq_some_iff.1 h.entry).1

/-- A context that is reached with one question is reached with any that the contexts before it
pass. -/
theorem Reaches.imp {β : Type} {ask' : Value → Run (Option β)}
    (silent : ∀ context w w₁, (ask context).outcome w = (.ok none, w₁) →
      (ask' context).outcome w = (.ok none, w₁))
    (h : r.Reaches ask w i g context w₁) : r.Reaches ask' w i g context w₁ :=
  ⟨h.entry, h.passed.imp silent⟩

/-- Two questions that part only at contexts of a certain kind reach the same positions up to the
first of that kind. -/
theorem Reaches.part {β : Type} {s : Resolver} {ask' : Value → Run (Option β)}
    {parts : Value → World → Prop} (same : s.contexts = r.contexts)
    (silent : ∀ context w w₁, (ask context).outcome w = (.ok none, w₁) →
      (ask' context).outcome w = (.ok none, w₁) ∨ parts context w)
    (h : r.Reaches ask w i g context w₁) :
    s.Reaches ask' w i g context w₁ ∨ ∃ j < i, ∃ g' c w₂, r.Reaches ask w j g' c w₂ ∧
      s.Reaches ask' w j g' c w₂ ∧ parts c w₂ := by
  rcases h.passed.part silent with hp | ⟨j, g', c, w₂, hj, hp, hp', hparts⟩
  · exact Or.inl ⟨same ▸ h.entry, same ▸ hp⟩
  · right
    have hji : j < i :=
      Nat.lt_of_lt_of_le (List.getElem?_eq_some_iff.1 hj).1 (List.length_take_le i r.contexts)
    rw [List.getElem?_take_of_lt hji] at hj
    rw [List.take_take, Nat.min_eq_left (Nat.le_of_lt hji)] at hp hp'
    exact ⟨j, hji, g', c, w₂, ⟨hj, hp⟩, ⟨same ▸ hj, same ▸ hp'⟩, hparts⟩

/-- At a place only **one** context is reached, and in one way. -/
theorem Reaches.unique {g' : Group} {context' : Value} (h : r.Reaches ask w i g context w₁)
    (h' : r.Reaches ask w i g' context' w₂) : g = g' ∧ context = context' ∧ w₁ = w₂ := by
  cases h.entry.symm.trans h'.entry
  exact ⟨rfl, rfl, h.passed.unique h'.passed⟩

/-- A scan **goes on** behind a context that it reaches and that does not answer. -/
theorem Reaches.passes (h : r.Reaches ask w i g context w₁)
    (silent : (ask context).outcome w₁ = (.ok none, w₂)) :
    Passed ask (r.contexts.take (i + 1)) w w₂ := by
  rw [List.take_add_one, h.entry]
  exact h.passed.append (.cons silent (.nil w₂))

/-- A scan that reaches a position reached those before it, where it was **not answered**. -/
theorem Reaches.before {j : Nat} (h : r.Reaches ask w i g context w₁) (hj : j < i) :
    ∃ g' c w₂ w₃, r.Reaches ask w j g' c w₂ ∧ (ask c).outcome w₂ = (.ok none, w₃) := by
  have hlt : j < r.contexts.length := Nat.lt_trans hj h.lt_length
  have hp := h.passed
  rw [← List.take_append_drop j (r.contexts.take i), List.take_take,
    Nat.min_eq_left (Nat.le_of_lt hj)] at hp
  obtain ⟨w₂, hbefore, hrest⟩ := hp.split
  rcases he : r.contexts[j] with ⟨g', c⟩
  have hentry : r.contexts[j]? = some (g', c) := by
    rw [List.getElem?_eq_getElem hlt, he]
  rw [List.drop_eq_getElem_cons (by rw [List.length_take]; omega), List.getElem_take, he] at hrest
  cases hrest with
  | cons hask _ => exact ⟨g', c, w₂, _, ⟨hentry, hbefore⟩, hask⟩

/-- A scan that reaches a position ends as it does from there. -/
theorem Reaches.firstAnswer_eq (h : r.Reaches ask w i g context w₁) :
    (firstAnswer ask r.numbered).outcome w =
      (firstAnswer ask (((g, context) :: r.contexts.drop (i + 1)).zipIdx i)).outcome w₁ := by
  have key := firstAnswer_append (m := (g, context) :: r.contexts.drop (i + 1)) h.passed 0
  rw [← h.contexts_eq, List.length_take, Nat.min_eq_left (Nat.le_of_lt h.lt_length),
    Nat.zero_add] at key
  exact key

/-- A scan ends in exactly **one of three ways**. -/
theorem scan_cases (r : Resolver) (ask : Value → Run (Option α)) (w : World) :
    (∃ i g context a w', r.Picks ask w i g context a w') ∨
      (∃ i g context w₁ f w', r.Reaches ask w i g context w₁ ∧
        (ask context).outcome w₁ = (.error f, w')) ∨
      ∃ w', Passed ask r.contexts w w' := by
  rcases passed_or_stopped ask r.contexts w with h | ⟨i, g, context, w₁, hi, hp, h⟩
  · exact Or.inr (Or.inr h)
  · rcases h with ⟨a, w₂, h⟩ | ⟨f, w₂, h⟩
    · exact Or.inl ⟨i, g, context, a, w₂, w₁, ⟨hi, hp⟩, h⟩
    · exact Or.inr (Or.inl ⟨i, g, context, w₁, f, w₂, ⟨hi, hp⟩, h⟩)

/-! ### The end of a scan -/

/-- The scan gives the answer of the context **picked**. -/
theorem firstAnswer_of_picks {a : α} (h : r.Picks ask w i g context a w₂) :
    (firstAnswer ask r.numbered).outcome w = (.ok (some (g, i, context, a)), w₂) := by
  obtain ⟨w₁, hr, hask⟩ := h
  rw [hr.firstAnswer_eq, List.zipIdx_cons, firstAnswer_cons, Run.outcome_bind_of_ok hask]
  rfl

/-- The scan fails as asking the context reached. -/
theorem firstAnswer_of_fails {f : Fault} (h : r.Reaches ask w i g context w₁)
    (hask : (ask context).outcome w₁ = (.error f, w₂)) :
    (firstAnswer ask r.numbered).outcome w = (.error f, w₂) := by
  rw [h.firstAnswer_eq, List.zipIdx_cons, firstAnswer_cons, Run.outcome_bind_of_error hask]

/-- Contexts that all pass give no answer. -/
theorem firstAnswer_of_passed (h : Passed ask r.contexts w w₁) :
    (firstAnswer ask r.numbered).outcome w = (.ok none, w₁) := by
  have key := firstAnswer_append (m := []) h 0
  rw [List.append_nil] at key
  exact key

/-- A scan picks **at most one** position, with one answer, in one world. -/
theorem Picks.unique {j : Nat} {g' : Group} {context' : Value} {a a' : α} {w₂' : World}
    (h : r.Picks ask w i g context a w₂) (h' : r.Picks ask w j g' context' a' w₂') :
    i = j ∧ g = g' ∧ context = context' ∧ a = a' ∧ w₂ = w₂' := by
  have key := (firstAnswer_of_picks h).symm.trans (firstAnswer_of_picks h')
  cases key
  exact ⟨rfl, rfl, rfl, rfl, rfl⟩

/-! ### The end of a search -/

variable {run : Runner} {name : String}

/-- A search whose scan picks a position **announces** the context and gives its answer. -/
theorem search_of_picks {a : α} (h : r.Picks ask w i g context a w₂) :
    (search run r name ask).outcome w =
      (do matched run r name g i context; pure (context, a) : Run (Value × α)).outcome w₂ := by
  rw [search, Run.outcome_bind_of_ok (firstAnswer_of_picks h)]

/-- A search whose scan fails fails **in the same way**, and announces nothing. -/
theorem search_of_fails {f : Fault} (h : r.Reaches ask w i g context w₁)
    (hask : (ask context).outcome w₁ = (.error f, w₂)) :
    (search run r name ask).outcome w = (.error f, w₂) := by
  rw [search, Run.outcome_bind_of_error (firstAnswer_of_fails h hask)]

/-- A search whose scan passes all contexts fails as a name that **nobody answers**. -/
theorem search_of_passed (h : Passed ask r.contexts w w₁) :
    (search run r name ask).outcome w =
      (failUnanswered run r name : Run (Value × α)).outcome w₁ := by
  rw [search, Run.outcome_bind_of_ok (firstAnswer_of_passed h)]

/-! ### The contexts behind -/

/-- A scan that ends at a context is **the same run** whatever stands behind that context. -/
theorem firstAnswer_congr {l : List (Group × Value)} (m n : List (Group × Value))
    (h : Passed ask l w w₁) (stops : ∀ w', (ask context).outcome w₁ ≠ (.ok none, w')) (k : Nat) :
    firstAnswer ask ((l ++ (g, context) :: m).zipIdx k) w =
      firstAnswer ask ((l ++ (g, context) :: n).zipIdx k) w := by
  induction h generalizing k with
  | nil w =>
      simp only [List.nil_append, List.zipIdx_cons, firstAnswer_cons]
      apply Run.bind_congr rfl
      intro a w₁ ha
      cases a with
      | none => exact absurd ha (stops w₁)
      | some a => rfl
  | cons hask _ ih =>
      simp only [List.cons_append, List.zipIdx_cons, firstAnswer_cons]
      apply Run.bind_congr rfl
      intro a w' ha
      cases hask.symm.trans ha
      exact ih stops (k + 1)

/-- A search whose scan ends at a position is **the same run** for every resolver that has the same
contexts up to there, a question and an observer. -/
theorem search_congr {s : Resolver} (h : r.Reaches ask w i g context w₁)
    (stops : ∀ w', (ask context).outcome w₁ ≠ (.ok none, w'))
    (same : s.contexts.take (i + 1) = r.contexts.take (i + 1))
    (observer : s.observer = r.observer) :
    search run s name ask w = search run r name ask w := by
  have hs : s.contexts = r.contexts.take i ++ (g, context) :: s.contexts.drop (i + 1) := by
    have hi : r.contexts.take (i + 1) = r.contexts.take i ++ [(g, context)] := by
      rw [List.take_add_one, h.entry]
      rfl
    calc s.contexts = s.contexts.take (i + 1) ++ s.contexts.drop (i + 1) := by
          rw [List.take_append_drop]
      _ = r.contexts.take i ++ (g, context) :: s.contexts.drop (i + 1) := by
          rw [same, hi, List.append_assoc]
          rfl
  have hscan : firstAnswer ask s.numbered w = firstAnswer ask r.numbered w := by
    have key := firstAnswer_congr (g := g) (s.contexts.drop (i + 1)) (r.contexts.drop (i + 1))
      h.passed stops 0
    rw [← h.contexts_eq] at key
    rw [numbered, numbered, hs]
    exact key
  apply Run.bind_congr hscan
  intro a w₂ ha
  cases a with
  | none =>
      have key := (congrArg Logging.value hscan).symm.trans ha
      rcases hask : (ask context).outcome w₁ with ⟨f | _ | a, w'⟩
      · cases (firstAnswer_of_fails h hask).symm.trans key
      · exact absurd hask (stops w')
      · cases (firstAnswer_of_picks ⟨w₁, h, hask⟩).symm.trans key
  | some a =>
      obtain ⟨g', i', context', a⟩ := a
      simp only [matched, observer]

end OrderedScope.Resolver
