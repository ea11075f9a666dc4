import OrderedScope.Proofs.FirstMatch

/-!
# What a Direction Decides

A direction ranks the three groups of contexts and nothing else. Where the contexts answer the same
whenever they are asked, the winner of a scan is the winner of the first group that has one, and
which context wins inside a group is the same under every direction. Two directions can pick
different contexts only by taking different groups.

Asking need not leave the world as it is for this: it is enough that no context fails and that none
is heard to answer otherwise because others, or it itself, were asked before. `Steady` says so.

## Main results

* `Resolver.picks_iff`: over steady contexts a scan picks the first one that answers.
* `Ranked.find_iff`: the first element of a certain kind in a row of groups is the first one in the
  first group that has one.
* `Resolver.direction_ranks`: the winner under every direction, and how the winners under two of
  them compare.
-/

namespace OrderedScope

/-! ### Rows of groups -/

namespace Ranked

variable {α : Type} (members : Group → List α) (p : α → Bool)

/-- The members of some groups in a row, each beside its group. -/
def row (groups : List Group) : List (Group × α) :=
  groups.flatMap fun g => (members g).map (g, ·)

/-- The **winner** of a group: the index of its first member of a certain kind. -/
def winner? (g : Group) : Option Nat := (members g).findIdx? p

/-- The **leader** of some groups: the first that has any member of the kind. -/
def leader? (groups : List Group) : Option Group := groups.find? fun g => (members g).any p

/-- How many members stand **before** a group in a row. -/
def before (groups : List Group) (g : Group) : Nat :=
  ((groups.takeWhile (· ≠ g)).flatMap members).length

variable {members p}

/-- A leader **has** a winner. -/
theorem winner_of_leader {groups : List Group} {g : Group} (h : leader? members p groups = some g) :
    ∃ j, winner? members p g = some j := by
  rw [← Option.isSome_iff_exists, winner?, List.findIdx?_isSome]
  have answered := List.find?_some (p := fun g => (members g).any p) h
  exact answered

/-- A row starts with the members of **the first group**. -/
theorem row_cons (g : Group) (groups : List Group) :
    row members (g :: groups) = (members g).map (g, ·) ++ row members groups := by
  rw [row, List.flatMap_cons, row]

/-- Nothing stands before the first group. -/
theorem before_cons_self (g : Group) (groups : List Group) :
    before members (g :: groups) g = 0 := by
  simp [before]

/-- Before a later group stand the members of the first one. -/
theorem before_cons_of_ne {h g : Group} (apart : h ≠ g) (groups : List Group) :
    before members (h :: groups) g = (members h).length + before members groups g := by
  simp [before, apart]

/-- The first hit of a row lies in the first group, or else **behind** its members. -/
theorem findIdx?_row_cons (g : Group) (groups : List Group) :
    (row members (g :: groups)).findIdx? (p ·.2) =
      (winner? members p g).or
        (((row members groups).findIdx? (p ·.2)).map (· + (members g).length)) := by
  rw [row_cons, List.findIdx?_append, List.findIdx?_map, List.length_map]
  rfl

/-- The winner of the first group stands in the row **where it stands in the group**. -/
theorem getElem?_row_of_winner {g : Group} {groups : List Group} {k : Nat}
    (won : winner? members p g = some k) :
    (row members (g :: groups))[k]? = ((members g)[k]?).map (g, ·) := by
  obtain ⟨hk, -⟩ := List.findIdx?_eq_some_iff_getElem.1 won
  rw [row_cons, List.getElem?_append_left (by simpa using hk), List.getElem?_map]

/-- What stands behind the first group stands in the row of the others, **shifted** by its
length. -/
theorem getElem?_row_add (g : Group) (groups : List Group) (i : Nat) :
    (row members (g :: groups))[i + (members g).length]? = (row members groups)[i]? := by
  rw [row_cons, List.getElem?_append_right (by simp), List.length_map, Nat.add_sub_cancel]

/-- The first member of a certain kind in a row of groups is the **winner of the leader**, and its
position is its index in that group behind all groups before. -/
theorem find_iff {groups : List Group} {i : Nat} {g : Group} {a : α} :
    (row members groups).findIdx? (p ·.2) = some i ∧ (row members groups)[i]? = some (g, a) ↔
      leader? members p groups = some g ∧ ∃ j, winner? members p g = some j ∧
        (members g)[j]? = some a ∧ i = before members groups g + j := by
  induction groups generalizing i with
  | nil => simp [row, leader?]
  | cons h rest ih =>
      have kind : (members h).any p = (winner? members p h).isSome := List.findIdx?_isSome.symm
      rw [findIdx?_row_cons, leader?, List.find?_cons, kind]
      rcases won : winner? members p h with _ | k
      · -- No member of the first group is of the kind: all is shifted by its length.
        have apart {g : Group} (hg : leader? members p rest = some g) : h ≠ g := by
          rintro rfl
          obtain ⟨j, hj⟩ := winner_of_leader hg
          rw [won] at hj
          cases hj
        simp only [Option.isSome_none, Option.none_or, Option.map_eq_some_iff]
        constructor
        · rintro ⟨⟨i', hi', rfl⟩, hentry⟩
          rw [getElem?_row_add] at hentry
          obtain ⟨hg, j, hj, ha, rfl⟩ := ih.1 ⟨hi', hentry⟩
          refine ⟨hg, j, hj, ha, ?_⟩
          rw [before_cons_of_ne (apart hg)]
          omega
        · rintro ⟨hg, j, hj, ha, rfl⟩
          have shift : before members (h :: rest) g + j =
              before members rest g + j + (members h).length := by
            rw [before_cons_of_ne (apart hg)]
            omega
          obtain ⟨hi', hentry⟩ := ih.2 ⟨hg, j, hj, ha, rfl⟩
          rw [shift, getElem?_row_add]
          exact ⟨⟨_, hi', rfl⟩, hentry⟩
      · -- The first group has a winner: the row has the same.
        simp only [Option.isSome_some, Option.some_or, Option.some.injEq]
        constructor
        · rintro ⟨rfl, hentry⟩
          rw [getElem?_row_of_winner won] at hentry
          obtain ⟨a, ha, ⟨⟩⟩ := Option.map_eq_some_iff.1 hentry
          exact ⟨rfl, k, won, ha, by rw [before_cons_self, Nat.zero_add]⟩
        · rintro ⟨rfl, j, hj, ha, rfl⟩
          cases won.symm.trans hj
          rw [before_cons_self, Nat.zero_add, getElem?_row_of_winner won, ha]
          exact ⟨rfl, rfl⟩

end Ranked

namespace Resolver

open Ranked

variable {run : Runner} {r : Resolver} {name : String} {w w₁ : World} {i : Nat} {g : Group}
  {context : Value} {answers : Value → Bool} {d d₁ d₂ : Direction}

/-- The contexts of a **group**, in the order in which they are asked. -/
def groupContexts (r : Resolver) : Group → List Value
  | .inner => r.inner
  | .outer => [r.outer]
  | .kernel => [r.kernel]

/-- The same resolver under another **direction**. -/
def directed (r : Resolver) (d : Direction) : Resolver := { r with direction := d }

/-- The contexts of a resolver are a row of its groups. -/
theorem contexts_eq_row (r : Resolver) :
    r.contexts = row r.groupContexts r.direction.groups := by
  rw [contexts, arrange, row]
  congr
  funext g
  cases g <;> rfl

/-- In another direction the contexts are a row of the same groups. -/
theorem contexts_directed (r : Resolver) (d : Direction) :
    (r.directed d).contexts = row r.groupContexts d.groups := contexts_eq_row (r.directed d)

/-- A context is one of its group. -/
theorem mem_contexts {e : Group × Value} (h : e ∈ r.contexts) : e.2 ∈ r.groupContexts e.1 := by
  rw [contexts_eq_row, row, List.mem_flatMap] at h
  obtain ⟨g, -, hg⟩ := h
  obtain ⟨c, hc, rfl⟩ := List.mem_map.1 hg
  exact hc

/-- The contexts of a resolver answer a name **steadily** from a world on: in that world, and in all
worlds to which asking them leads, none of them fails and each answers as it is said to. -/
def Steady (run : Runner) (r : Resolver) (name : String) (answers : Value → Bool) (w : World) :
    Prop :=
  ∃ within : World → Prop, within w ∧ ∀ w₁, within w₁ → ∀ g, ∀ c ∈ r.groupContexts g,
    ∃ w₂, (r.variant.strategy.respondsTo run c name).outcome w₁ = (.ok (answers c), w₂) ∧ within w₂

/-- Contexts that are asked without failing and **without changing the world** answer steadily. -/
theorem steady_of_unchanged (h : ∀ g, ∀ c ∈ r.groupContexts g,
    (r.variant.strategy.respondsTo run c name).outcome w = (.ok (answers c), w)) :
    r.Steady run name answers w := by
  refine ⟨(· = w), rfl, ?_⟩
  rintro _ rfl g c hc
  exact ⟨_, h g c hc, rfl⟩

/-- A steady context that is asked **answers as it is said to**, and leaves all of them steady. -/
theorem Steady.ask (h : r.Steady run name answers w) (hc : context ∈ r.groupContexts g) :
    ∃ w₁, (r.asking run name context).outcome w =
      (.ok (if answers context then some () else none), w₁) ∧ r.Steady run name answers w₁ := by
  obtain ⟨within, here, step⟩ := h
  obtain ⟨w₁, hask, after⟩ := step w here g context hc
  refine ⟨w₁, ?_, within, after, step⟩
  rw [outcome_asking, hask]

/-- Steady contexts that do not answer **are passed**. -/
theorem Steady.passed (h : r.Steady run name answers w) {l : List (Group × Value)}
    (mem : ∀ e ∈ l, e.2 ∈ r.groupContexts e.1) (silent : ∀ e ∈ l, answers e.2 = false) :
    ∃ w₁, Passed (r.asking run name) l w w₁ ∧ r.Steady run name answers w₁ := by
  induction l generalizing w with
  | nil => exact ⟨w, .nil w, h⟩
  | cons e rest ih =>
      rw [List.forall_mem_cons] at mem silent
      obtain ⟨w₁, hask, after⟩ := h.ask mem.1
      rw [silent.1] at hask
      obtain ⟨w₂, passed, last⟩ := ih after mem.2 silent.2
      exact ⟨w₂, .cons hask passed, last⟩

/-- Steady contexts that are passed **do not answer**. -/
theorem Steady.silent (h : r.Steady run name answers w) {l : List (Group × Value)}
    (mem : ∀ e ∈ l, e.2 ∈ r.groupContexts e.1) (passed : Passed (r.asking run name) l w w₁) :
    (∀ e ∈ l, answers e.2 = false) ∧ r.Steady run name answers w₁ := by
  induction passed with
  | nil w => exact ⟨nofun, h⟩
  | @cons g context rest w w₁ w₂ hask _ ih =>
      rw [List.forall_mem_cons] at mem
      obtain ⟨w', said, after⟩ := h.ask mem.1
      cases answer : answers context <;> rw [answer] at said
      · cases said.symm.trans hask
        obtain ⟨rest, last⟩ := ih after mem.2
        exact ⟨List.forall_mem_cons.2 ⟨answer, rest⟩, last⟩
      · cases said.symm.trans hask

/-- Over steady contexts a scan picks **the first that answers**. -/
theorem picks_iff (h : r.Steady run name answers w) :
    (∃ w', r.Picks (r.asking run name) w i g context () w') ↔
      r.contexts.findIdx? (answers ·.2) = some i ∧ r.contexts[i]? = some (g, context) := by
  have taken : ∀ e ∈ r.contexts.take i, e.2 ∈ r.groupContexts e.1 :=
    fun e he => mem_contexts (List.mem_of_mem_take he)
  constructor
  · rintro ⟨w', w₁, reached, hask⟩
    obtain ⟨silent, after⟩ := h.silent taken reached.passed
    obtain ⟨hi, he⟩ := List.getElem?_eq_some_iff.1 reached.entry
    obtain ⟨w₂, said, -⟩ := after.ask (mem_contexts (List.mem_of_getElem? reached.entry))
    refine ⟨List.findIdx?_eq_some_iff_getElem.2 ⟨hi, ?_, fun j hj => ?_⟩, reached.entry⟩
    · rw [he]
      cases answer : answers context
      · rw [answer] at said
        cases said.symm.trans hask
      · rfl
    · rw [Bool.not_eq_true]
      exact silent _ (List.mem_take_iff_getElem.2 ⟨j, by omega, rfl⟩)
  · rintro ⟨first, entry⟩
    obtain ⟨hi, answer, others⟩ := List.findIdx?_eq_some_iff_getElem.1 first
    have silent : ∀ e ∈ r.contexts.take i, answers e.2 = false := by
      intro e he
      obtain ⟨j, hj, rfl⟩ := List.mem_take_iff_getElem.1 he
      exact Bool.eq_false_iff.2 (others j (by omega))
    obtain ⟨w₁, passed, after⟩ := h.passed taken silent
    obtain ⟨w₂, said, -⟩ := after.ask (mem_contexts (List.mem_of_getElem? entry))
    rw [(List.getElem?_eq_some_iff.1 entry).2] at answer
    rw [answer] at said
    exact ⟨w₂, w₁, ⟨entry, passed⟩, said⟩

/-- Steadiness does not depend on the **direction**. -/
theorem Steady.directed (h : r.Steady run name answers w) (d : Direction) :
    (r.directed d).Steady run name answers w := h

/-- The winner under a direction is **the winner of its leader**, the first of its groups that has
an answering context. -/
theorem picks_directed_iff (h : r.Steady run name answers w) :
    (∃ w', (r.directed d).Picks ((r.directed d).asking run name) w i g context () w') ↔
      leader? r.groupContexts answers d.groups = some g ∧
        ∃ j, winner? r.groupContexts answers g = some j ∧
          (r.groupContexts g)[j]? = some context ∧
          i = before r.groupContexts d.groups g + j := by
  rw [picks_iff (h.directed d), contexts_directed]
  exact find_iff

/-- Without a leader **nobody answers**. -/
theorem Steady.passed_of_leaderless (h : r.Steady run name answers w)
    (leaderless : leader? r.groupContexts answers d.groups = none) :
    ∃ w', Passed ((r.directed d).asking run name) (r.directed d).contexts w w' := by
  obtain ⟨w', passed, -⟩ := (h.directed d).passed (fun _ => mem_contexts) fun e he => by
    rw [contexts_directed, row, List.mem_flatMap] at he
    obtain ⟨g, hg, he⟩ := he
    obtain ⟨c, hc, rfl⟩ := List.mem_map.1 he
    rw [leader?, List.find?_eq_none] at leaderless
    exact Bool.eq_false_iff.2 fun answer => leaderless g hg (List.any_eq_true.2 ⟨c, hc, answer⟩)
  exact ⟨w', passed⟩

/-- Groups that are **ordered alike**, but for those without an answering context, have one
leader. -/
theorem leader?_eq_of_filter {members : Group → List Value} {p : Value → Bool}
    {groups groups' : List Group} (alike : (groups.filter fun g => (members g).any p) =
      groups'.filter fun g => (members g).any p) :
    leader? members p groups = leader? members p groups' := by
  rw [leader?, leader?, ← List.head?_filter, ← List.head?_filter, alike]

/-- Every group stands in every direction. -/
theorem mem_groups (d : Direction) (g : Group) : g ∈ d.groups := by
  rw [d.groups_perm.mem_iff]
  cases g <;> decide

/-- The only group with an answering context **leads under every direction**. -/
theorem leader?_eq_of_only {members : Group → List Value} {p : Value → Bool}
    (only : ∀ h, (members h).any p = true ↔ h = g) (d : Direction) :
    leader? members p d.groups = some g := by
  rcases led : leader? members p d.groups with _ | h
  · rw [leader?, List.find?_eq_none] at led
    exact absurd ((only g).2 rfl) (led g (mem_groups d g))
  · have answered := List.find?_some (p := fun g => (members g).any p) led
    rw [(only h).1 answered]

/-- A direction **only ranks the groups**: over contexts that answer steadily,

* the winner under a direction is the winner of the first of its groups that has an answering
  context, and its position is its index in that group behind all contexts of the groups before;
  which member of a group wins in it does not depend on the direction;
* that context is announced and resolved, and if no group has one, under any direction, the name
  ends unanswered;
* two directions that order the groups with answering contexts alike pick the same context, the same
  member of the same group;
* if one group alone has answering contexts, every direction picks its winner. -/
theorem direction_ranks (run : Runner) (r : Resolver) (name : String) (answers : Value → Bool)
    (w : World) (steady : r.Steady run name answers w) :
    (∀ d i g c, (∃ w', (r.directed d).Picks ((r.directed d).asking run name) w i g c () w') ↔
      leader? r.groupContexts answers d.groups = some g ∧
        ∃ j, winner? r.groupContexts answers g = some j ∧ (r.groupContexts g)[j]? = some c ∧
          i = before r.groupContexts d.groups g + j) ∧
    (∀ d, ((∃ i g c w', (r.directed d).Picks ((r.directed d).asking run name) w i g c () w' ∧
          ((r.directed d).resolve run name).outcome w = (announce run r name g i c c).outcome w') ∨
        (∀ g, (r.groupContexts g).any answers = false) ∧ ∃ w',
          ((r.directed d).resolve run name).outcome w =
            (failUnanswered run (r.directed d) name : Run Value).outcome w')) ∧
    (∀ d₁ d₂, (d₁.groups.filter fun g => (r.groupContexts g).any answers) =
        (d₂.groups.filter fun g => (r.groupContexts g).any answers) →
      ∀ g j c, ((∃ w', (r.directed d₁).Picks ((r.directed d₁).asking run name) w
            (before r.groupContexts d₁.groups g + j) g c () w') ↔
          ∃ w', (r.directed d₂).Picks ((r.directed d₂).asking run name) w
            (before r.groupContexts d₂.groups g + j) g c () w')) ∧
    (∀ g, (∀ h, (r.groupContexts h).any answers = true ↔ h = g) →
      ∃ j c, winner? r.groupContexts answers g = some j ∧ (r.groupContexts g)[j]? = some c ∧
        ∀ d, ∃ w', (r.directed d).Picks ((r.directed d).asking run name) w
          (before r.groupContexts d.groups g + j) g c () w') := by
  have winners (d i g c) :
      (∃ w', (r.directed d).Picks ((r.directed d).asking run name) w i g c () w') ↔ _ :=
    picks_directed_iff steady
  -- The winner of a leader is a context, and is picked.
  have picked {d g} (led : leader? r.groupContexts answers d.groups = some g) :
      ∃ j c, winner? r.groupContexts answers g = some j ∧ (r.groupContexts g)[j]? = some c ∧
        ∃ w', (r.directed d).Picks ((r.directed d).asking run name) w
          (before r.groupContexts d.groups g + j) g c () w' := by
    obtain ⟨j, won⟩ := winner_of_leader led
    obtain ⟨hj, -⟩ := List.findIdx?_eq_some_iff_getElem.1 won
    have at_ := List.getElem?_eq_getElem hj
    exact ⟨j, _, won, at_, (winners d _ g _).2 ⟨led, j, won, at_, rfl⟩⟩
  refine ⟨winners, fun d => ?_, fun d₁ d₂ alike g j c => ?_, fun g only => ?_⟩
  · rcases led : leader? r.groupContexts answers d.groups with _ | g
    · obtain ⟨w', passed⟩ := steady.passed_of_leaderless led
      rw [leader?, List.find?_eq_none] at led
      exact Or.inr ⟨fun g => Bool.eq_false_iff.2 (led g (mem_groups d g)), w',
        resolve_of_passed passed⟩
    · obtain ⟨j, c, -, -, w', picks⟩ := picked led
      exact Or.inl ⟨_, g, c, w', picks, resolve_of_picks picks⟩
  · have shift (d : Direction) (i : Nat) :
        before r.groupContexts d.groups g + j = before r.groupContexts d.groups g + i ↔ j = i :=
      Nat.add_left_cancel_iff
    rw [winners, winners, leader?_eq_of_filter alike]
    simp only [shift]
  · obtain ⟨j, c, won, at_, -⟩ := picked (leader?_eq_of_only only .iok)
    exact ⟨j, c, won, at_, fun d =>
      (winners d _ g c).2 ⟨leader?_eq_of_only only d, j, won, at_, rfl⟩⟩

/-- A world with one object, which holds a `len` as the kernel does. -/
def boxed : World :=
  { World.empty with
    classes := #[plainClass 0 "Box" []]
    objects := #[plainObject "box" 0 [("len", .int 3)]] }

/-- A public resolver over nothing and the object, with the kernel behind them. -/
def overBoxed : Resolver :=
  ⟨.publicOne, .none, .none, .iok, [.none, .object 0], .module World.kernelModule, none⟩

/-- The object is picked wherever the inner group stands before the kernel, behind one context or
two, and the kernel is where it stands first. What is picked is resolved. -/
theorem direction_ranks_boxed :
    overBoxed.Steady (Interpreter.runner 10) "len" (! · matches .none) boxed ∧
    (∀ d ∈ [Direction.iok, .iko], ∃ w', (overBoxed.directed d).Picks
      ((overBoxed.directed d).asking (Interpreter.runner 10) "len") boxed 1 .inner (.object 0) ()
        w') ∧
    (∃ w', (overBoxed.directed .oik).Picks
      ((overBoxed.directed .oik).asking (Interpreter.runner 10) "len") boxed 2 .inner (.object 0) ()
        w') ∧
    (∃ w', (overBoxed.directed .oki).Picks
      ((overBoxed.directed .oki).asking (Interpreter.runner 10) "len") boxed 1 .kernel
        (.module World.kernelModule) () w') ∧
    (∀ d ∈ [Direction.iok, .iko, .oik], ∃ w',
      ((overBoxed.directed d).resolve (Interpreter.runner 10) "len").outcome boxed =
        (.ok (.object 0), w')) ∧
    ∃ w', ((overBoxed.directed .oki).resolve (Interpreter.runner 10) "len").outcome boxed =
      (.ok (.module World.kernelModule), w') := by
  have steady : overBoxed.Steady (Interpreter.runner 10) "len" (! · matches .none) boxed := by
    refine steady_of_unchanged fun g c hc => ?_
    have members : c ∈ [.none, .object 0, .module World.kernelModule] := by
      cases g with
      | inner => exact List.mem_append_left [.module World.kernelModule] hc
      | outer => exact List.mem_singleton.1 hc ▸ List.mem_cons_self
      | kernel => exact List.mem_append_right [.none, .object 0] hc
    simp only [List.mem_cons, List.not_mem_nil, or_false] at members
    rcases members with rfl | rfl | rfl
    · with_unfolding_all rfl
    · with_unfolding_all rfl
    · with_unfolding_all rfl
  obtain ⟨winners, -⟩ := direction_ranks (Interpreter.runner 10) overBoxed "len" _ boxed steady
  refine ⟨steady, fun d hd => ?_, ?_, ?_, fun d hd => ?_, _, Run.eq_of_gave (by decide +kernel)⟩
  · simp only [List.mem_cons, List.not_mem_nil, or_false] at hd
    rcases hd with rfl | rfl <;> exact (winners _ _ _ _).2 ⟨rfl, 1, rfl, rfl, rfl⟩
  · exact (winners _ _ _ _).2 ⟨rfl, 1, rfl, rfl, rfl⟩
  · exact (winners _ _ _ _).2 ⟨rfl, 0, rfl, rfl, rfl⟩
  · simp only [List.mem_cons, List.not_mem_nil, or_false] at hd
    rcases hd with rfl | rfl | rfl <;> exact ⟨_, Run.eq_of_gave (by decide +kernel)⟩

end Resolver

end OrderedScope
