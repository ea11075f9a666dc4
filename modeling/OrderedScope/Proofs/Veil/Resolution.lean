import OrderedScope.Proofs.FirstMatch
import OrderedScope.Proofs.Veil.Access

/-!
# Resolving a Name Under a Veil

A strategy that includes restricted members never looks at a mark, so all that it finds is the same
under a veil. One that refuses them looks at the mark of the entry that it has found, and nowhere
else: under a veil more members are marked, and fewer names answered.

## Main results

* `Attribute.keeps_isMarked`: a member that is marked is marked under a veil.
* `Strategy.blind_respondsTo`, `Strategy.seen_lookup`: with restricted members included a context
  answers in the same way under a veil.
* `Resolver.blind_resolve`, `Resolver.blind_explain`, `Resolver.seen_member`: and so does a
  resolver.
-/

namespace OrderedScope

variable {V : Veil} {run : Runner} {name : String}

/-! ### Marks -/

namespace Attribute

/-- The mark of a value with a function behind it is **the mark of the function**. -/
theorem outcome_get?_mark {holder : Value} {i : FunctionId} (h : holder.function? = some i)
    (w : World) : (get? run holder restrictedMark).outcome w =
      (.ok ((w.ownAttrs? (.fn i)).bind (·.find? restrictedMark)), w) := by
  have plain : (objectGet run (.fn i) restrictedMark).outcome w =
      ((w.ownAttrs? (.fn i)).bind (·.find? restrictedMark)).elim
        (.error (.raised (.noAttribute "function" restrictedMark)), w) fun x => (.ok x, w) := by
    have free : w.typeMember? (w.classOf (.fn i)) restrictedMark = none :=
      World.typeMember?_native ..
    rw [outcome_objectGet, World.objectUsed?, free]
    rcases (w.ownAttrs? (.fn i)).bind (·.find? restrictedMark) with _ | x <;> rfl
  have access : (get run holder restrictedMark).outcome w =
      (objectGet run (.fn i) restrictedMark).outcome w := by
    rw [outcome_get_of_function h]
    cases holder with
    | fn j =>
        cases h
        rfl
    | bound f self =>
        cases f with
        | fn j =>
            cases h
            rw [standardGet, methodGet, Run.outcome_bind_of_ok (Run.outcome_reading _ w),
              World.typeMember?_native]
            rfl
        | _ => cases h
    | _ => cases h
  rw [get?, Run.outcome_optional, access, plain]
  rcases (w.ownAttrs? (.fn i)).bind (·.find? restrictedMark) with _ | x <;> rfl

section Marks

variable (unaware : V.Unaware run)

include unaware

/-- Who holds the mark of a member is **the same** under a veil. -/
theorem blind_markHolder (raw : Value) : V.Blind (markHolder run raw) := by
  have wrapped : V.Blind (get run raw "__func__") :=
    blind_get unaware (.of_name (by decide) (by decide) raw)
  have getter : V.Blind (get run raw "fget") :=
    blind_get unaware (.of_name (by decide) (by decide) raw)
  unfold markHolder
  grind

/-- The mark of a holder is the same under a veil, unless the function behind the holder is **newly
marked**. -/
theorem relates_mark (holder : Value) :
    let mark : Run Bool := do
      match ← get? run holder restrictedMark with
      | some x => x.truthy run
      | none => pure false
    V.Relates (fun b b' => b' = b ∨
      b' = true ∧ ∃ i, holder.function? = some i ∧ V.marks i = true) mark mark := by
  intro mark
  rcases hi : holder.function? with _ | i
  · have found : V.Blind (get? run holder restrictedMark) := blind_get? unaware (Or.inl hi)
    refine Veil.Relates.imp (?_ : V.Blind mark) fun b b' same => Or.inl same.symm
    grind
  · intro w w' alike
    have read (w : World) {own : Option Value}
        (h : (w.ownAttrs? (.fn i)).bind (·.find? restrictedMark) = own) :
        mark.outcome w = (own.elim (pure false) (·.truthy run) : Run Bool).outcome w := by
      rw [Run.outcome_bind_of_ok (outcome_get?_mark hi w), h]
      cases own <;> rfl
    cases hm : V.marks i with
    | true =>
        obtain ⟨f', hf', key⟩ := alike.marked i _ hm
          (Array.getElem?_eq_getElem (V.placed w i alike.covered hm))
        have own : (w'.ownAttrs? (.fn i)).bind (·.find? restrictedMark) = some (.bool true) := by
          rw [World.ownAttrs?, hf']
          exact key.mark
        obtain ⟨b, hb⟩ : ∃ b, mark.outcome w = (.ok b, w) := by
          rw [read w rfl]
          rcases held : (w.ownAttrs? (.fn i)).bind (·.find? restrictedMark) with _ | x
          · exact ⟨false, rfl⟩
          · exact V.plain w i alike.covered hm x held run
        rw [read w' own, hb]
        exact ⟨alike, .ok (Or.inr ⟨rfl, i, rfl, hm⟩)⟩
    | false =>
        have own : (w'.ownAttrs? (.fn i)).bind (·.find? restrictedMark) =
            (w.ownAttrs? (.fn i)).bind (·.find? restrictedMark) := by
          rw [World.ownAttrs?, World.ownAttrs?, alike.unmarked i hm]
        rw [read w' own, read w rfl]
        refine Veil.Relates.imp (?_ : V.Blind _) (fun b b' same => Or.inl same.symm) w w' alike
        exact .elim (.pure false) fun x _ => blind_truthy unaware x

/-- A member that is **marked** is marked under a veil. -/
theorem keeps_isMarked (raw : Value) :
    V.Relates (fun b b' => b = true → b' = true) (isMarked run raw) (isMarked run raw) := by
  have held : V.Relates (fun b b' => b = true → b' = true)
      (do match ← get? run (← markHolder run raw) restrictedMark with
        | some mark => mark.truthy run
        | none => pure false)
      (do match ← get? run (← markHolder run raw) restrictedMark with
        | some mark => mark.truthy run
        | none => pure false) :=
    (blind_markHolder unaware raw).relates_bind fun holder =>
      (relates_mark unaware holder).imp fun b b' either marked =>
        either.elim (fun same => same.trans marked) And.left
  cases raw with
  | none => exact .pure id
  | missing => exact .pure id
  | _ => exact held

/-- A member that is marked under a veil only is held by a function that is **newly marked**, or
wraps one. -/
theorem newly_isMarked {raw : Value} {w w' w₁ w₁' : World} (alike : V.Alike w w')
    (h : (isMarked run raw).outcome w = (.ok false, w₁))
    (h' : (isMarked run raw).outcome w' = (.ok true, w₁')) :
    ∃ holder w₂ i, (markHolder run raw).outcome w = (.ok holder, w₂) ∧
      holder.function? = some i ∧ V.marks i = true := by
  have unfolded (given : raw ≠ .none ∧ raw ≠ .missing) : isMarked run raw = (do
      match ← get? run (← markHolder run raw) restrictedMark with
      | some mark => mark.truthy run
      | none => pure false) := by
    cases raw with
    | none => exact absurd rfl given.1
    | missing => exact absurd rfl given.2
    | _ => rfl
  have given : raw ≠ .none ∧ raw ≠ .missing := by
    constructor <;> rintro rfl <;> cases h'
  rw [unfolded given] at h h'
  obtain ⟨holder, w₂, hh, hm⟩ := Run.outcome_bind_ok_iff.1 h
  obtain ⟨w₂', hh', after⟩ := (blind_markHolder unaware raw).outcome alike hh
  rw [Run.outcome_bind_of_ok hh'] at h'
  have key := (relates_mark unaware holder w₂ w₂' after).2
  rw [hm, h'] at key
  cases key with
  | ok either =>
      obtain same | ⟨-, i, hi, marked⟩ := either
      · cases same
      · exact ⟨holder, w₂, i, hh, hi, marked⟩

end Marks

end Attribute

/-! ### Strategies -/

/-- Whether a strategy includes restricted members **all through**. -/
def Strategy.includesAll : Strategy → Bool
  | dynamic r | static r => r
  | fallback p s => p.includesAll && s.includesAll

section Asking

variable (unaware : V.Unaware run) (hn : name ≠ restrictedMark) (context : Value)

include unaware hn

namespace Lookup

open Attribute

/-- Whether a context has a name is found blindly. -/
theorem blind_has (context : Value) : V.Blind (has run context name) := by
  by_cases table : name = "__dict__"
  · subst table
    exact (seen_get unaware context).optional.map fun x y seen => by cases seen <;> rfl
  · exact Attribute.blind_has unaware (.of_name hn table context)

/-- The dynamic strategy for all members answers **blindly**. -/
theorem blind_dynamicRespondsTo : V.Blind (dynamicRespondsTo run true context name) := by
  have held : V.Blind (held? run context name) := blind_held? unaware context hn
  have hooks : V.Blind (has run context name) := blind_has unaware hn context
  have empty (raw : Value) : V.Blind (isEmptySlot run raw context) :=
    blind_isEmptySlot unaware raw context
  unfold dynamicRespondsTo
  grind

/-- Access to a name is **seen alike** through the context. -/
theorem seen_access : V.Relates (V.Seen context) (get run context name) (get run context name) := by
  by_cases table : name = "__dict__"
  · subst table
    exact seen_get unaware context
  · exact (blind_get unaware (.of_name hn table context)).seen

/-- What the dynamic strategy for all members gives is **seen alike**. -/
theorem seen_dynamicLookup : V.Relates (Option.Rel (V.Seen context))
    (dynamicLookup run true context name) (dynamicLookup run true context name) := by
  have access := seen_access unaware hn context
  unfold dynamicLookup
  simp only [Strategy.refuses, Bool.not_true, Bool.false_and, Bool.false_eq_true, ↓reduceIte]
  refine (blind_held? unaware context hn).relates_bind fun found => ?_
  cases found with
  | none =>
      refine access.optional.map fun x y seen => ?_
      cases seen with
      | none => exact .none
      | some seen => exact seen.known
  | some raw =>
      refine (blind_isEmptySlot unaware raw context).relates_bind fun empty => ?_
      cases empty with
      | true => exact .pure .none
      | false =>
          refine (Veil.Blind.pure false).relates_bind fun hidden => ?_
          cases hidden with
          | true => exact .pure .none
          | false => exact access.map fun _ _ => Veil.Seen.known

/-- The static strategy for all members finds blindly. -/
theorem blind_staticFound? : V.Blind (staticFound? run true context name) := by
  have walked : V.Blind (walk? run context name) := blind_walk? unaware context hn
  have empty (raw : Value) : V.Blind (isEmptySlot run raw context) :=
    blind_isEmptySlot unaware raw context
  unfold staticFound?
  grind

omit hn in
/-- An entry is settled alike. -/
theorem seen_settle (entry : Value × Bool) :
    V.Relates (V.Seen context) (settle run context entry) (settle run context entry) := by
  obtain ⟨raw, loose⟩ := entry
  cases loose with
  | true => exact seen_bindEntry unaware raw context
  | false => exact .pure (.same raw)

/-- What the static strategy for all members gives is seen alike. -/
theorem seen_staticLookup : V.Relates (Option.Rel (V.Seen context))
    (staticLookup run true context name) (staticLookup run true context name) := by
  refine (blind_staticFound? unaware hn context).relates_bind fun found => ?_
  cases found with
  | none => exact .pure .none
  | some entry => exact (seen_settle unaware context entry).map fun _ _ => Veil.Seen.known

/-- A question is handed over blindly. -/
theorem blind_handOver (secondary : Strategy) (operation : String) (e : Error) :
    V.Blind (handOver run secondary operation context name e) := by
  have blamed : V.Blind (overridesProtocol run context name) :=
    blind_overridesProtocol unaware context hn
  have shown (c : ClassRef) : V.Blind (get run (.cls c) "__qualname__") :=
    blind_get unaware (.cls c _)
  have plain (v : Value) : V.Blind (v.plainText run) := Value.blind_plainText unaware v
  have words : V.Blind (e.text run) := Error.blind_text unaware e
  unfold handOver
  grind

/-- Strategies with alike fallbacks end alike. -/
theorem relates_withFallback {α β : Type} {R : α → β → Prop} (secondary : Strategy)
    (operation : String) {first second : Run α} {first' second' : Run β}
    (hf : V.Relates R first first') (hs : V.Relates R second second') :
    V.Relates R (withFallback run secondary operation context name first second)
      (withFallback run secondary operation context name first' second') :=
  hf.recover fun e _ =>
    (blind_handOver unaware hn context secondary operation e).relates_bind fun _ => hs

end Lookup

namespace Strategy

open Lookup

/-- With restricted members included, whether a context **answers** a name is the same
under a veil. -/
theorem blind_respondsTo {s : Strategy} (hs : s.includesAll = true) :
    V.Blind (s.respondsTo run context name) := by
  induction s with
  | dynamic r =>
      obtain rfl : r = true := hs
      exact blind_dynamicRespondsTo unaware hn context
  | static r =>
      obtain rfl : r = true := hs
      exact (blind_staticFound? unaware hn context).map
  | fallback p s hp hs' =>
      rw [includesAll, Bool.and_eq_true] at hs
      exact relates_withFallback unaware hn context s _ (hp hs.1) (hs' hs.2)

/-- And **what** it answers is seen alike through it. -/
theorem seen_lookup {s : Strategy} (hs : s.includesAll = true) :
    V.Relates (Option.Rel (V.Seen context)) (s.lookup run context name)
      (s.lookup run context name) := by
  induction s with
  | dynamic r =>
      obtain rfl : r = true := hs
      exact seen_dynamicLookup unaware hn context
  | static r =>
      obtain rfl : r = true := hs
      exact seen_staticLookup unaware hn context
  | fallback p s hp hs' =>
      rw [includesAll, Bool.and_eq_true] at hs
      exact relates_withFallback unaware hn context s _ (hp hs.1) (hs' hs.2)

end Strategy

end Asking

/-! ### Resolvers -/

/-- An observer is **blind** to a veil: it reacts to what it is told in the same way under it. -/
def Veil.Unseen (V : Veil) (run : Runner) (o : Option Observer) : Prop :=
  ∀ watcher, o = some watcher → V.Blind (watcher.react run)

/-- Events are told **blindly** to such an observer: its failures are put into words by code that is
unaware of the veil. -/
theorem blind_emit (unaware : V.Unaware run) {o : Option Observer} (unseen : V.Unseen run o)
    (e : Event) : V.Blind (emit run o e) := by
  cases o with
  | none => exact .pure ()
  | some watcher =>
      have kept : V.Blind (modify fun w => { w with observed := e :: w.observed } : Run Unit) :=
        .change_beside (fun _ _ => rfl) (fun _ => rfl) fun w covered => V.told w e covered
      exact .recover (kept.bind fun _ => unseen watcher rfl) fun failure _ =>
        (Error.blind_text unaware failure).bind fun _ => .log _ _

namespace Resolver

/-- Two members that a resolver gives are **seen alike** through one of its contexts. -/
def SeenAlike (V : Veil) (r : Resolver) (x y : Value) : Prop :=
  ∃ g context, (g, context) ∈ r.contexts ∧ V.Seen context x y

/-- Members that are seen alike are **the same**, unless a function stands behind a context. -/
theorem SeenAlike.eq {r : Resolver} {x y : Value} (h : r.SeenAlike V x y)
    (apart : ∀ e ∈ r.contexts, e.2.function? = none) : y = x := by
  obtain ⟨g, context, mem, seen⟩ := h
  exact seen.eq (apart _ mem)

section Scans

variable {α : Type} {R : Value → α → α → Prop} {ask : Value → Run (Option α)}

/-- A scan whose contexts answer alike ends **at the same context**. -/
theorem relates_firstAnswer {line : List ((Group × Value) × Nat)}
    (h : ∀ e ∈ line, V.Relates (Option.Rel (R e.1.2)) (ask e.1.2) (ask e.1.2)) :
    V.Relates (Option.Rel fun x y => ∃ g i context a b, ((g, context), i) ∈ line ∧
        x = (g, i, context, a) ∧ y = (g, i, context, b) ∧ R context a b)
      (firstAnswer ask line) (firstAnswer ask line) := by
  induction line with
  | nil => exact .pure .none
  | cons e rest ih =>
      rw [List.forall_mem_cons] at h
      obtain ⟨⟨g, context⟩, i⟩ := e
      refine h.1.bind fun x y related => ?_
      cases related with
      | none =>
          refine (ih h.2).imp fun x y related => ?_
          cases related with
          | none => exact .none
          | some key =>
              obtain ⟨g', i', c', a, b, mem, hx, hy, hab⟩ := key
              exact .some ⟨g', i', c', a, b, List.mem_cons_of_mem _ mem, hx, hy, hab⟩
      | @some a b hab =>
          exact .pure (.some ⟨g, i, context, a, b, List.mem_cons_self, rfl, rfl, hab⟩)

variable (unaware : V.Unaware run)

include unaware

/-- That a context answers is told blindly to an observer that sees no mark. -/
theorem blind_matched {r : Resolver} (unseen : V.Unseen run r.observer) (g : Group) (i : Nat)
    (context : Value) : V.Blind (matched run r name g i context) := by
  have shown (c : ClassRef) : V.Blind (Attribute.get run (.cls c) "__qualname__") :=
    Attribute.blind_get unaware (.cls c _)
  have plain (v : Value) : V.Blind (v.plainText run) := Value.blind_plainText unaware v
  have told (e : Event) : V.Blind (emit run r.observer e) := blind_emit unaware unseen e
  unfold matched
  grind

/-- A search whose contexts answer alike gives the same context, and **related answers**. -/
theorem relates_search {r : Resolver} (unseen : V.Unseen run r.observer)
    (h : ∀ e ∈ r.contexts, V.Relates (Option.Rel (R e.2)) (ask e.2) (ask e.2)) :
    V.Relates (fun x y => y.1 = x.1 ∧ ∃ g, (g, x.1) ∈ r.contexts ∧ R x.1 x.2 y.2)
      (search run r name ask) (search run r name ask) := by
  refine (relates_firstAnswer fun e he => h e.1 (List.fst_mem_of_mem_zipIdx he)).bind
    fun x y related => ?_
  cases related with
  | none => exact (blind_emit unaware unseen _).relates_bind fun _ => .throw _
  | some key =>
      obtain ⟨g, i, context, a, b, mem, rfl, rfl, hab⟩ := key
      exact (blind_matched unaware unseen g i context).relates_bind fun _ =>
        .pure ⟨rfl, g, List.fst_mem_of_mem_zipIdx mem, hab⟩

end Scans

section Questions

variable (unaware : V.Unaware run) (hn : name ≠ restrictedMark) {r : Resolver}
  (unseen : V.Unseen run r.observer) (all : r.variant.strategy.includesAll = true)

include unaware hn all

/-- With restricted members included, a **resolution** is the same under a veil. -/
theorem blind_resolve (unseen : V.Unseen run r.observer) : V.Blind (r.resolve run name) := by
  have asks (context : Value) : V.Relates (Option.Rel fun _ _ : Unit => True)
      (r.asking run name context) (r.asking run name context) :=
    (Strategy.blind_respondsTo unaware hn context all).relates_bind fun answers => by
      cases answers with
      | true => exact .pure (.some trivial)
      | false => exact .pure .none
  exact (relates_search (R := fun _ _ _ => True) unaware unseen fun e _ => asks e.2).map
    fun _ _ related => related.1.symm

/-- The steps of an **explanation** are the same. -/
theorem blind_explain : V.Blind (r.explain run name) := by
  have steps (found : Bool) (line : List ((Group × Value) × Nat)) :
      V.Blind (explain.go run r name found line) := by
    induction line generalizing found with
    | nil => exact .pure []
    | cons e rest ih =>
        exact (Strategy.blind_respondsTo unaware hn e.1.2 all).bind fun matched =>
          (ih _).bind fun steps => .pure _
  exact steps false r.numbered

/-- The **member** is seen alike through the context that gives it. -/
theorem seen_member (unseen : V.Unseen run r.observer) :
    V.Relates (r.SeenAlike V) (r.member run name) (r.member run name) :=
  (relates_search (R := V.Seen) unaware unseen fun e _ =>
    Strategy.seen_lookup unaware hn e.2 all).map
    fun x _ related => ⟨related.2.choose, x.1, related.2.choose_spec⟩

/-- The member that must be callable is **the same**: a table cannot be called. -/
theorem blind_methodHandle (unseen : V.Unseen run r.observer) :
    V.Blind (r.methodHandle run name) := by
  have refused (x : Value) : V.Blind (do
      let c ← Run.reading (·.classOf x)
      let shown ← Attribute.get run (.cls c) "__name__"
      Run.raise (.nonCallableMember name (← shown.formatted run)) : Run Value) :=
    (Veil.Blind.reading fun w fs => by simp).bind fun c =>
      (Attribute.blind_get unaware (.cls c _)).bind fun shown =>
        (Value.blind_formatted unaware shown).bind fun _ => .raise _
  refine (seen_member unaware hn all unseen).bind fun x y alike => ?_
  obtain ⟨_, context, -, seen⟩ := alike
  unfold requireCallable
  cases seen with
  | same x =>
      refine (Veil.Blind.reading fun w fs => by simp).relates_bind fun callable => ?_
      cases callable with
      | true => exact Veil.Blind.pure x
      | false => exact refused x
  | @table i own own' =>
      have silent (w : World) (entries : Members) : w.isCallable (.dict entries) = false := by
        rw [World.isCallable, World.classOf, World.typeMember?_native]
        rfl
      simp only [silent]
      exact .reading_bind (fun _ _ => rfl) fun _ _ => refused (.dict own)

end Questions

end Resolver

/-! ### Public resolvers -/

/-- A veil **hides** what a context holds under a name in a world: the mark of the member is held by
a function that is marked under the veil. -/
def Veil.Hides (V : Veil) (run : Runner) (name : String) (context : Value) (w : World) : Prop :=
  ∃ raw holder i w₁ w₂ w₃, (Attribute.held? run context name).outcome w = (.ok (some raw), w₁) ∧
    (Attribute.isEmptySlot run raw context).outcome w₁ = (.ok false, w₂) ∧
    (Attribute.markHolder run raw).outcome w₂ = (.ok holder, w₃) ∧
    holder.function? = some i ∧ V.marks i = true

namespace Resolver

section Hiding

variable (unaware : V.Unaware run) (hn : name ≠ restrictedMark) (context : Value)

include unaware hn

/-- A context that answers a public resolver under a veil **answers without it**. -/
theorem keeps_dynamicRespondsTo :
    V.Relates (fun b b' => b' = true → b = true)
      (Lookup.dynamicRespondsTo run false context name)
      (Lookup.dynamicRespondsTo run false context name) := by
  have keep {x : Run Bool} (h : V.Blind x) : V.Relates (fun b b' => b' = true → b = true) x x :=
    h.imp fun b b' same => fun h => same.trans h
  unfold Lookup.dynamicRespondsTo
  split
  · exact keep (.pure false)
  refine (Attribute.blind_held? unaware context hn).relates_bind fun found => ?_
  cases found with
  | none => exact keep (Lookup.blind_has unaware hn context)
  | some raw =>
      refine (Attribute.blind_isEmptySlot unaware raw context).relates_bind fun empty => ?_
      cases empty with
      | true => exact keep (.pure false)
      | false =>
          refine (Attribute.keeps_isMarked unaware raw).map fun b b' kept answers => ?_
          cases b with
          | false => rfl
          | true => rw [kept rfl] at answers; cases answers

/-- A public resolver that says yes with the marks says **yes without** them. -/
theorem keeps_asking {r : Resolver} (hv : r.variant = .publicOne) :
    V.Relates (fun a a' => a' = some () → a = some ()) (r.asking run name context)
      (r.asking run name context) := by
  unfold asking
  rw [hv]
  refine (keeps_dynamicRespondsTo unaware hn context).bind fun b b' kept => .pure ?_
  cases b' with
  | false => exact nofun
  | true => rw [kept rfl]; exact id

/-- A context that answers a public resolver, but not under a veil, **holds a
newly marked member**. -/
theorem hides_of_asking {r : Resolver} (hv : r.variant = .publicOne) {w w' w₁ w₁' : World}
    (alike : V.Alike w w') (h : (r.asking run name context).outcome w = (.ok (some ()), w₁))
    (h' : (r.asking run name context).outcome w' = (.ok none, w₁')) :
    V.Hides run name context w := by
  have asked : r.variant.strategy.respondsTo run context name =
      Lookup.dynamicRespondsTo run false context name := by
    rw [hv]
    rfl
  have answers := asked ▸ asking_some_iff.1 h
  have refuses := asked ▸ asking_none_iff.1 h'
  unfold Lookup.dynamicRespondsTo at answers refuses
  split at answers
  · cases answers
  rename_i unrefused
  rw [if_neg unrefused] at refuses
  obtain ⟨found, w₂, held, answers⟩ := Run.outcome_bind_ok_iff.1 answers
  obtain ⟨w₂', held', alike₂⟩ := (Attribute.blind_held? unaware context hn).outcome alike held
  rw [Run.outcome_bind_of_ok held'] at refuses
  cases found with
  | none =>
      obtain ⟨_, same, -⟩ := (Lookup.blind_has unaware hn context).outcome alike₂ answers
      cases same.symm.trans refuses
  | some raw =>
      obtain ⟨empty, w₃, slot, answers⟩ := Run.outcome_bind_ok_iff.1 answers
      obtain ⟨w₃', slot', alike₃⟩ :=
        (Attribute.blind_isEmptySlot unaware raw context).outcome alike₂ slot
      rw [Run.outcome_bind_of_ok slot'] at refuses
      cases empty with
      | true => cases answers
      | false =>
          obtain ⟨b, unmarked, hb⟩ := Run.outcome_map_ok_iff.1 answers
          obtain ⟨b', marked, hb'⟩ := Run.outcome_map_ok_iff.1 refuses
          obtain rfl : b = false := by simpa using hb
          obtain rfl : b' = true := by simpa using hb'
          obtain ⟨holder, w₄, i, hh, hi, hm⟩ :=
            Attribute.newly_isMarked unaware alike₃ unmarked marked
          exact ⟨raw, holder, i, w₂, w₃, w₄, held, slot, hh, hi, hm⟩

end Hiding

end Resolver

end OrderedScope
