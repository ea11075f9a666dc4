import Mathlib.Data.List.Perm.Subperm
import OrderedScope.Proofs.FrontEnds

/-!
# What a Closure Captures

Where its outer context is not given, a closure captures it when it is made, from the function that
is called in the end: partial calls do not matter, however many are around each other. The first of
the following is captured: what the function is bound to, unless that is a module; the content of
the variable `self` that it captures, if the cell is filled; the module it was written in, if it is
known; an empty namespace of its own.

What is captured stays: every resolver that is made for the closure, now or later, by itself or
through a capsule, has that outer context.

## Main results

* `Closure.unwrapPartial?_eq_some_iff`: the chain of partial calls ends, or it never ends.
* `Closure.inferOuter_layers`: partial calls do not matter.
* `Closure.inferOuter_order`: what is captured, and that it stays.
* `Closure.inferOuter_passes_over`: a receiver that is not captured, and one that cannot be asked.
-/

namespace OrderedScope

namespace Closure

variable {w w₁ : World} {v f x : Value} {ids : List ObjectId} {run : Runner}

/-! ### Layers of partial calls -/

/-- A value is a function in **layers** of partial calls; the list has the objects of the layers,
outermost first. -/
inductive Layered (w : World) : Value → List ObjectId → Value → Prop
  | bare (f : Value) : Layered w f [] f
  | layer {i : ObjectId} {inner f : Value} {ids : List ObjectId} :
      partialOf? w (.object i) = some inner → Layered w inner ids f →
      Layered w (.object i) (i :: ids) f

namespace Layered

/-- Layers around layers are layers. -/
theorem trans {g : Value} {more : List ObjectId} (h : Layered w v ids f)
    (h' : Layered w f more g) : Layered w v (ids ++ more) g := by
  induction h with
  | bare f => exact h'
  | layer called _ ih => exact .layer called (ih h')

/-- What is no partial call has no layer. -/
theorem eq_of_bare (h : Layered w v ids f) (bare : partialOf? w v = none) : ids = [] ∧ f = v := by
  cases h with
  | bare => exact ⟨rfl, rfl⟩
  | layer called => rw [bare] at called; cases called

/-- Under some of the layers of a value are **the others**. -/
theorem behind {more : List ObjectId} (h : Layered w v ids f) (h' : Layered w v more x)
    (bare : partialOf? w x = none) : ∃ rest, Layered w f rest x ∧ more = ids ++ rest := by
  induction h generalizing more with
  | bare f => exact ⟨more, h', rfl⟩
  | layer called _ ih =>
    cases h' with
    | bare => rw [bare] at called; cases called
    | layer called' inner' =>
      obtain rfl := Option.some.inj (called.symm.trans called')
      obtain ⟨rest, behind, rfl⟩ := ih inner'
      exact ⟨rest, behind, rfl⟩

/-- Each of the layers has **fewer** layers behind it. -/
theorem of_mem {i : ObjectId} (h : Layered w v ids f) (hi : i ∈ ids) :
    ∃ rest, Layered w (.object i) rest f ∧ rest.length ≤ ids.length := by
  induction h with
  | bare => cases hi
  | @layer j inner f ids called inside ih =>
    obtain rfl | hi := List.mem_cons.1 hi
    · exact ⟨_, .layer called inside, Nat.le_refl _⟩
    · obtain ⟨rest, behind, shorter⟩ := ih hi
      exact ⟨rest, behind, Nat.le_succ_of_le shorter⟩

/-- No layer comes **twice** on the way to what is no partial call. -/
theorem nodup (h : Layered w v ids f) (bare : partialOf? w f = none) : ids.Nodup := by
  induction h with
  | bare => exact .nil
  | @layer i inner f ids called inside ih =>
    refine List.nodup_cons.2 ⟨fun again => ?_, ih bare⟩
    obtain ⟨rest, behind, shorter⟩ := inside.of_mem again
    obtain ⟨none, nothing, same⟩ := behind.behind (.layer called inside) bare
    rw [(nothing.eq_of_bare bare).1, List.append_nil] at same
    rw [← same, List.length_cons] at shorter
    exact absurd shorter (Nat.not_succ_le_self _)

/-- Each of the layers is an **object** of the world. -/
theorem lt_size {i : ObjectId} (h : Layered w v ids f) (hi : i ∈ ids) : i < w.objects.size := by
  induction h with
  | bare => cases hi
  | @layer j inner f ids called _ ih =>
    obtain rfl | hi := List.mem_cons.1 hi
    · by_contra beyond
      rw [partialOf?, World.payload?, Array.getElem?_eq_none (Nat.not_lt.1 beyond)] at called
      cases called
    · exact ih hi

/-- There are **no more** layers than objects. -/
theorem length_le (h : Layered w v ids f) (bare : partialOf? w f = none) :
    ids.length ≤ w.objects.size := by
  have objects : ids ⊆ List.range w.objects.size := fun i hi => List.mem_range.2 (h.lt_size hi)
  simpa using ((h.nodup bare).subperm objects).length_le

end Layered

/-- With steps enough **all layers** are taken off. -/
theorem unwrapPartial?_of_layered (h : Layered w v ids f) (bare : partialOf? w f = none)
    {steps : Nat} (enough : ids.length ≤ steps) : unwrapPartial? w steps v = some f := by
  induction h generalizing steps with
  | bare f => cases steps <;> simp [unwrapPartial?, bare]
  | layer called _ ih =>
    cases steps with
    | zero => exact absurd enough (Nat.not_succ_le_zero _)
    | succ steps =>
      rw [unwrapPartial?, called, Option.elim_some]
      exact ih bare (Nat.le_of_succ_le_succ enough)

/-- What is left when the layers are taken off stands behind them and is no layer. -/
theorem layered_of_unwrapPartial? {steps : Nat} (h : unwrapPartial? w steps v = some x) :
    ∃ ids, Layered w v ids x ∧ partialOf? w x = none := by
  induction steps generalizing v with
  | zero =>
    rw [unwrapPartial?] at h
    split at h <;> cases h
    rename_i bare
    exact ⟨[], .bare _, Option.isNone_iff_eq_none.1 bare⟩
  | succ steps ih =>
    rw [unwrapPartial?] at h
    cases called : partialOf? w v with
    | none =>
      rw [called, Option.elim_none] at h
      cases h
      exact ⟨[], .bare _, called⟩
    | some inner =>
      rw [called, Option.elim_some] at h
      obtain ⟨ids, inside, bare⟩ := ih h
      cases v with
      | object i => exact ⟨i :: ids, .layer called inside, bare⟩
      | _ => cases called

/-- As many steps as there are objects unwrap **every chain** of partial calls that ends. -/
theorem unwrapPartial?_eq_some_iff :
    unwrapPartial? w w.objects.size v = some x ↔
      ∃ ids, Layered w v ids x ∧ partialOf? w x = none :=
  ⟨layered_of_unwrapPartial?, fun ⟨_, layered, bare⟩ =>
    unwrapPartial?_of_layered layered bare (layered.length_le bare)⟩

/-- A value and what it is called through end at **the same function**, or neither ends. -/
theorem unwrapPartial?_layers (h : Layered w v ids f) :
    unwrapPartial? w w.objects.size v = unwrapPartial? w w.objects.size f := by
  refine Option.ext fun x => ?_
  simp only [unwrapPartial?_eq_some_iff]
  constructor
  · rintro ⟨more, layered, bare⟩
    obtain ⟨rest, behind, -⟩ := h.behind layered bare
    exact ⟨rest, behind, bare⟩
  · rintro ⟨rest, behind, bare⟩
    exact ⟨ids ++ rest, h.trans behind, bare⟩

/-- Partial calls **do not matter** for the outer context, however many there are around a function;
what is logged on the way is the same as well. -/
theorem inferOuter_layers (run : Runner) (h : Layered w v ids f) :
    inferOuter run v w = inferOuter run f w := by
  have called : callee run v w = callee run f w := by
    rw [callee, callee, Run.get_bind_apply, Run.get_bind_apply, unwrapPartial?_layers h]
  exact Run.bind_congr called fun _ _ _ => rfl

end Closure

/-! ### What a callable shows -/

/-- Whether a value is **fit for a key** of a table by itself: plain data that can be one. No class
of the world is asked then. -/
def Value.fitsKey : Value → Bool
  | .list _ | .dict _ | .proxy _ | .growing _ | .object _ | .cls _ => false
  | .tuple items | .direction items => items.attach.all fun ⟨x, _⟩ => x.fitsKey
  | _ => true

/-- What is fit for a key **can be a key**. -/
theorem Value.isHashable_of_fitsKey {v : Value} (h : v.fitsKey = true) : v.isHashable = true := by
  induction v using Value.isHashable.induct with
  | case4 items ih | case5 items ih =>
    rw [fitsKey, List.all_eq_true] at h
    rw [isHashable, List.all_eq_true]
    exact fun x hx => ih x.1 x.2 (h x hx)
  | case6 v => rw [isHashable] <;> assumption
  | _ =>
    rw [fitsKey.eq_def] at h
    cases h

namespace World

variable {w : World} {v f : Value} {name : String} {o : Option Value} {c : ClassRef} {b : Bool}

/-- Access to a name of a value **shows** something, or that it is missing, whoever runs it, and
nothing is done. -/
def Shows (w : World) (v : Value) (name : String) (o : Option Value) : Prop :=
  ∀ run, (Attribute.get? run v name).outcome w = (.ok o, w)

/-- A value **shows** whether it passes as an instance of a class. -/
def ShowsKind (w : World) (v : Value) (c : ClassRef) (b : Bool) : Prop :=
  ∀ run, (Attribute.isInstance run v c).outcome w = (.ok b, w)

/-- A value **shows** whether it counts as true. -/
def ShowsTruth (w : World) (v : Value) (b : Bool) : Prop :=
  ∀ run, (v.truthy run).outcome w = (.ok b, w)

/-- What a callable shows of the **variables** that it captures, each by its name and its cell: none
if it shows no code, or no cells; else the names that its code captures beside the cells, in pairs.
The names are texts. -/
inductive ShowsVariables (w : World) (f : Value) : List (Value × Value) → Prop
  | codeless {code cells : Option Value} : w.Shows f "__code__" code →
      w.Shows f "__closure__" cells → code.getD .none = .none → ShowsVariables w f []
  | bare {code cells : Option Value} : w.Shows f "__code__" code →
      w.Shows f "__closure__" cells → w.ShowsTruth (cells.getD .none) false →
      ShowsVariables w f []
  | pairs {code cells names : Value} {texts : List String} {items : List Value} :
      w.Shows f "__code__" (some code) → code ≠ .none → w.Shows f "__closure__" (some cells) →
      w.ShowsTruth cells true → w.Shows code "co_freevars" (some names) →
      names.items.outcome w = (.ok (texts.map .str), w) → cells.items.outcome w = (.ok items, w) →
      ShowsVariables w f ((texts.map .str).zip items)

/-- What a cell **shows** as its content: something if it is filled, and else that what it should
hold is wrong. Where there is no cell there is no content. -/
inductive ShowsContent (w : World) : Option (Value × Value) → Option Value → Prop
  | absent : ShowsContent w none none
  | filled {name cell x : Value} : w.Shows cell "cell_contents" (some x) →
      ShowsContent w (some (name, cell)) (some x)
  | empty {name cell : Value} {e : Error} : e.isA .value = true →
      (∀ run, (Attribute.get run cell "cell_contents").outcome w = (.error (.raised e), w)) →
      ShowsContent w (some (name, cell)) none

/-- What a callable shows as the content of the variable `self`: that of the first variable of that
name which it captures, wherever that stands among the others. -/
def ShowsSelf (w : World) (f : Value) (content : Option Value) : Prop :=
  ∃ pairs, w.ShowsVariables f pairs ∧
    w.ShowsContent (pairs.find? fun e => e.1.isStr "self") content

/-- A callable is **candid** if it shows what the inference of its outer context asks it for: that
it is no partial call; what it is bound to, if to anything, and of this whether it is a module; the
content of the variable `self`; its module. The last must be fit for a key, if there is one. -/
structure Candid (w : World) (f : Value) : Prop where
  kind : w.ShowsKind f (.native .partialCall) false
  bound : ∃ o, w.Shows f "__self__" o ∧
    ∀ r, o = some r → r ≠ .none → ∃ b, w.ShowsKind r (.native .module) b
  self : ∃ content, w.ShowsSelf f content
  home : ∃ o, w.Shows f "__module__" o ∧ (o.getD .none).fitsKey = true

/-- Whether plain data **counts as true** in a world. -/
def counts (w : World) (v : Value) : Bool := ((v.plainTruth.outcome w).1.toOption).getD true

/-- Whether what is fit for a key counts as true **is found out** without anything else. -/
theorem outcome_truthy_of_fitsKey (fit : v.fitsKey = true) (run : Runner) :
    (v.truthy run).outcome w = (.ok (w.counts v), w) := by
  cases v with
  | object i =>
    rw [Value.fitsKey.eq_def] at fit
    cases fit
  | cls c =>
    rw [Value.fitsKey.eq_def] at fit
    cases fit
  | _ => rfl

/-- The module that is known under what a callable shows for its module; what counts as nothing
stands for the empty name. -/
def knownModule? (w : World) (home : Value) : Option ModuleId :=
  match (if w.counts home then home else .str "") with
  | .str name => w.findModule? name
  | .group g => w.findModule? g.name
  | _ => none

/-- A callable is bound to **nothing**, or to a module. -/
def Unbound (w : World) (f : Value) : Prop :=
  ∃ o, w.Shows f "__self__" o ∧
    ∀ r, o = some r → r = .none ∨ w.ShowsKind r (.native .module) true

/-- The world with one more object, an **empty namespace**. -/
def withSpace (w : World) : World :=
  (w.addObject ⟨none, .native .space, some [], [], .plain⟩).2

end World

namespace Closure

variable {w w₁ : World} {v f x : Value} {ids : List ObjectId} {run : Runner}

/-- The outer context of a callable: the **first** of what it is bound to, the content of the
variable `self` that it captures, its module, and an empty namespace. Only the last makes something
new. -/
inductive OuterOf (w : World) (f : Value) : Value → World → Prop
  | receiver {r : Value} : w.Shows f "__self__" (some r) → r ≠ .none →
      w.ShowsKind r (.native .module) false → OuterOf w f r w
  | variable_ {x : Value} : w.Unbound f → w.ShowsSelf f (some x) → OuterOf w f x w
  | module {home : Option Value} {i : ModuleId} : w.Unbound f → w.ShowsSelf f none →
      w.Shows f "__module__" home → w.knownModule? (home.getD .none) = some i →
      OuterOf w f (.module i) w
  | space {home : Option Value} : w.Unbound f → w.ShowsSelf f none →
      w.Shows f "__module__" home → w.knownModule? (home.getD .none) = none →
      OuterOf w f (.object w.objects.size) w.withSpace

/-- What is no layer is itself what is called. -/
theorem outcome_callee (bare : partialOf? w f = none)
    (kind : w.ShowsKind f (.native .partialCall) false) :
    (callee run f).outcome w = (.ok f, w) := by
  have unwrapped : unwrapPartial? w w.objects.size f = some f :=
    unwrapPartial?_eq_some_iff.2 ⟨[], .bare f, bare⟩
  rw [callee, Run.outcome_bind_of_ok (Run.outcome_get w), unwrapped]
  simp only
  rw [Run.outcome_bind_of_ok (kind run)]
  rfl

/-- What a callable is bound to is given on if it is **no module**. -/
theorem outcome_receiver? (h : w.Candid f) :
    (∃ r, w.Shows f "__self__" (some r) ∧ r ≠ .none ∧ w.ShowsKind r (.native .module) false ∧
      ∀ run, (receiver? run f).outcome w = (.ok (some r), w)) ∨
    w.Unbound f ∧ ∀ run, (receiver? run f).outcome w = (.ok none, w) := by
  obtain ⟨o, shown, asked⟩ := h.bound
  have after (run : Runner) : (receiver? run f).outcome w = _ := Run.outcome_bind_of_ok (shown run)
  rcases o with _ | r
  · exact .inr ⟨⟨none, shown, nofun⟩, fun run => after run⟩
  · by_cases nothing : r = .none
    · subst nothing
      exact .inr ⟨⟨_, shown, fun r same => .inl (Option.some.inj same).symm⟩, fun run => after run⟩
    · obtain ⟨b, kind⟩ := asked r rfl nothing
      have next (run : Runner) : (receiver? run f).outcome w =
          (.ok (if b then none else some r), w) := by
        have asks : (do
            if ← Attribute.isInstance run r (.native .module) then pure none
            else pure (some r) : Run (Option Value)).outcome w =
              (.ok (if b then none else some r), w) := by
          rw [Run.outcome_bind_of_ok (kind run)]
          cases b <;> rfl
        rw [after run]
        cases r with
        | none => exact absurd rfl nothing
        | _ => exact asks
      cases b with
      | false => exact .inl ⟨r, shown, nothing, kind, next⟩
      | true =>
        refine .inr ⟨⟨_, shown, fun r' same => ?_⟩, next⟩
        cases same
        exact .inr kind

/-- What a cell shows as its content **is read**, and that it is empty is no error. -/
theorem outcome_content {pair : Option (Value × Value)} {content : Option Value} (run : Runner) :
    w.ShowsContent pair content →
    (match pair with
      | none => pure none
      | some (_, cell) =>
        Run.recover (·.isA .value) (some <$> Attribute.get run cell "cell_contents")
          fun _ => pure none : Run (Option Value)).outcome w = (.ok content, w) := by
  intro h
  cases h with
  | absent => rfl
  | filled shown =>
    refine Run.outcome_recover_ok ?_
    rw [Run.outcome_map, Run.outcome_optional_some_iff.1 (shown run)]
  | empty wrong fails =>
    simp only [Run.outcome_recover, Run.outcome_map, fails run, wrong, ↓reduceIte]
    rfl

/-- What a callable shows as the content of the variable `self` **is read**. -/
theorem outcome_capturedSelf? {content : Option Value} (h : w.ShowsSelf f content) (run : Runner) :
    (capturedSelf? run f).outcome w = (.ok content, w) := by
  obtain ⟨pairs, shown, content⟩ := h
  cases shown with
  | codeless hcode hcells nothing =>
    cases content
    rw [capturedSelf?, Run.outcome_bind_of_ok (hcode run), Run.outcome_bind_of_ok (hcells run),
      nothing]
    rfl
  | @bare code cells hcode hcells empty =>
    cases content
    rw [capturedSelf?, Run.outcome_bind_of_ok (hcode run), Run.outcome_bind_of_ok (hcells run)]
    simp only
    split
    · rfl
    · rw [Run.outcome_bind_of_ok (empty run)]
      rfl
  | pairs hcode something hcells full hnames names items =>
    rw [capturedSelf?, Run.outcome_bind_of_ok (hcode run), Run.outcome_bind_of_ok (hcells run)]
    simp only [Option.getD_some]
    rw [Run.outcome_bind_of_ok (full run), if_pos rfl, pairedSelf?,
      Run.outcome_bind_of_ok (Run.outcome_optional_some_iff.1 (hnames run)),
      Run.outcome_bind_of_ok names, Run.outcome_bind_of_ok items]
    exact outcome_content run content

/-- The module of a candid callable is the one that is **known** under what it shows for it. -/
theorem outcome_moduleOf? {home : Option Value} (shown : w.Shows f "__module__" home)
    (fit : (home.getD .none).fitsKey = true) (run : Runner) :
    (moduleOf? run f).outcome w =
      (.ok ((w.knownModule? (home.getD .none)).map .module), w) := by
  rw [moduleOf?, Run.outcome_bind_of_ok (shown run)]
  simp only
  rw [Run.outcome_bind_of_ok (World.outcome_truthy_of_fitsKey fit run), World.knownModule?]
  generalize home.getD .none = v at fit ⊢
  have key : (if w.counts v then v else .str "").isHashable = true := by
    split
    · exact Value.isHashable_of_fitsKey fit
    · rw [Value.isHashable.eq_def]
  generalize (if w.counts v then v else .str "") = v at key
  cases v with
  | str name => rfl
  | group g => rfl
  | _ => simp only [key, ↓reduceIte]; rfl

/-- The outer context of a candid callable **is inferred**, in the documented order and whoever runs
it; nothing is done but that an empty namespace is made where nothing else is there. -/
theorem inferOuter_candid (bare : partialOf? w f = none) (h : w.Candid f) :
    ∃ o w', OuterOf w f o w' ∧ ∀ run, (inferOuter run f).outcome w = (.ok o, w') := by
  have begins (run : Runner) : (inferOuter run f).outcome w = _ :=
    Run.outcome_bind_of_ok (outcome_callee bare h.kind)
  obtain ⟨r, shown, something, kind, given⟩ | ⟨unbound, given⟩ := outcome_receiver? h
  · refine ⟨r, w, .receiver shown something kind, fun run => ?_⟩
    rw [begins run, Run.outcome_bind_of_ok (given run)]
    rfl
  · obtain ⟨content, captured⟩ := h.self
    cases content with
    | some x =>
      refine ⟨x, w, .variable_ unbound captured, fun run => ?_⟩
      rw [begins run, Run.outcome_bind_of_ok (given run),
        Run.outcome_bind_of_ok (outcome_capturedSelf? captured run)]
      rfl
    | none =>
      obtain ⟨home, shown, fit⟩ := h.home
      have last {o : Option ModuleId} (known : w.knownModule? (home.getD .none) = o)
          (run : Runner) : (inferOuter run f).outcome w =
            (o.elim emptyNamespace fun i => pure (.module i)).outcome w := by
        rw [begins run, Run.outcome_bind_of_ok (given run),
          Run.outcome_bind_of_ok (outcome_capturedSelf? captured run)]
        refine (Run.outcome_bind_of_ok (outcome_moduleOf? shown fit run)).trans ?_
        rw [known]
        cases o <;> rfl
      cases known : w.knownModule? (home.getD .none) with
      | some i => exact ⟨_, _, .module unbound captured shown known, last known⟩
      | none => exact ⟨_, _, .space unbound captured shown known, last known⟩

end Closure

/-! ### Candid callables -/

namespace World

variable {w : World} {v r x : Value} {name : String} {i : FunctionId} {function : FunctionRec}
  {entry : TableEntry}

/-- What tells its class **shows its kind**. -/
theorem TellsClass.showsKind (h : w.TellsClass v) (c : ClassRef) :
    w.ShowsKind v c (w.isSubclass (w.classOf v) c) :=
  fun _ => Attribute.outcome_isInstance h c

/-- An entry that runs no code **is shown**, unless a hook stands in front of it. -/
theorem shows_of_used (front : w.frontHook? v = none) (used : w.used? v name = some entry)
    (gives : ∀ run, (entry.give run).outcome w = (.ok x, w)) : w.Shows v name (some x) :=
  fun run => Run.outcome_optional_some_iff.2
    (Attribute.get_of_standardGet front (Attribute.outcome_standardGet_of_used used (gives run)))

/-- Without hooks a name without an entry **shows nothing**; a module is asked further. -/
theorem shows_none (h : w.TellsClass v) (unused : w.used? v name = none)
    (proper : ∀ i, v ≠ .module i) : w.Shows v name none := by
  intro run
  have plain (v : Value) (unused : w.objectUsed? v name = none) :
      ∃ e, e.isA .attr = true ∧
        (Attribute.objectGet run v name).outcome w = (.error (.raised e), w) := by
    rw [Attribute.outcome_objectGet, unused]
    exact ⟨_, rfl, rfl⟩
  refine Run.outcome_optional_none_iff.2 ?_
  rw [Attribute.outcome_get_of_unhooked h.front h.back]
  cases v with
  | module i => exact absurd rfl (proper i)
  | cls c =>
    have unused : w.classUsed? c name = none := unused
    rw [Attribute.standardGet, Attribute.outcome_classGet, unused]
    exact ⟨_, rfl, rfl⟩
  | bound f self =>
    rw [Attribute.standardGet, Attribute.methodGet,
      Run.outcome_bind_of_ok (Run.outcome_reading _ w)]
    rcases member : w.typeMember? (.native .method) name with _ | raw <;>
      simp only [World.used?, member] at unused ⊢
    · exact plain f unused
    · cases unused
  | _ => exact plain _ unused

/-- A callable is **candid** by what it shows under the names that are asked of it. -/
theorem candid_of_shown {self content home : Option Value} (h : w.TellsClass v)
    (proper : w.isSubclass (w.classOf v) (.native .partialCall) = false)
    (bound : w.Shows v "__self__" self) (receiver : ∀ r, self = some r → w.TellsClass r)
    (captures : w.ShowsSelf v content)
    (shown : w.Shows v "__module__" home) (fit : (home.getD .none).fitsKey = true) :
    w.Candid v where
  kind := proper ▸ h.showsKind _
  bound := ⟨self, bound, fun r same _ => ⟨_, (receiver r same).showsKind _⟩⟩
  self := ⟨content, captures⟩
  home := ⟨home, shown, fit⟩

/-- Access to a native field **uses it**, whatever the value has itself. -/
theorem objectUsed?_native {o : ClassRef} {k : NativeKind} (hk : k = .getset ∨ k = .slot)
    (h : w.typeMember? (w.classOf v) name = some (.nativeMember o k name)) :
    w.objectUsed? v name = some (.member (.nativeMember o k name) (some v) (w.classOf v)) := by
  have controls : (w.controlsRead (.nativeMember o k name) &&
      w.controlsWrite (.nativeMember o k name)) = true := by
    obtain rfl | rfl := hk
    · exact Attribute.controls_getset w o name
    · exact Attribute.controls_slot w o name
  rw [objectUsed?, h]
  cases (w.ownAttrs? v).bind (·.find? name) with
  | none => rfl
  | some x => simp only [controls, ↓reduceIte]

/-- A field that the class of a value gives is **shown** as it is. -/
theorem shows_field {o : ClassRef} {k : NativeKind} (front : w.frontHook? v = none)
    (ordinary : w.used? v name = w.objectUsed? v name) (hk : k = .getset ∨ k = .slot)
    (member : w.typeMember? (w.classOf v) name = some (.nativeMember o k name))
    (gives : (Attribute.field o name v).outcome w = (.ok x, w)) : w.Shows v name (some x) := by
  refine shows_of_used front (ordinary.trans (objectUsed?_native hk member)) fun run => ?_
  obtain rfl | rfl := hk <;> exact gives

/-! ### Captured variables -/

/-- The first entry under a key **is found**. -/
theorem lookup_eq_find? {α : Type} (key : String) (l : List (String × α)) :
    l.lookup key = (l.find? fun e => key == e.1).map (·.2) := by
  induction l with
  | nil => rfl
  | cons e rest ih =>
    obtain ⟨k, a⟩ := e
    rw [List.lookup_cons, List.find?_cons]
    cases key == k with
    | true => rfl
    | false => exact ih

/-- The names that a function captures, each **beside its cell**. -/
theorem zip_cells (i : FunctionId) (captured : List (String × Option Value)) :
    ((captured.map Prod.fst).map Value.str).zip ((List.range captured.length).map (Value.cell i)) =
      captured.zipIdx.map fun e => (.str e.1.1, .cell i e.2) := by
  rw [List.zipIdx_eq_zip_range', ← List.range_eq_range', List.map_map, List.zip_map]
  rfl

/-- The first variable of a name is found **in its place**. -/
theorem find?_zipIdx {name : String} {captured : List (String × Option Value)}
    {e : String × Option Value} {place : Nat}
    (h : (captured.zipIdx.find? fun e => name == e.1.1) = some (e, place)) :
    captured[place]? = some e ∧ captured.lookup name = some e.2 := by
  refine ⟨(List.mem_zipIdx_iff_getElem?.1 (List.mem_of_find?_eq_some h)), ?_⟩
  have first := congrArg (Option.map Prod.fst) h
  rw [← Function.comp_def (name == ·) fun e : (String × Option Value) × Nat => e.1.1] at first
  have whole : captured.find? (fun e => name == e.1) = some e := by
    conv_lhs => rw [← List.zipIdx_map_fst 0 captured]
    rw [List.find?_map]
    exact first
  rw [lookup_eq_find?, whole]
  rfl

/-- The content of a cell of a function is **shown** if it is filled, and else that it is empty. -/
theorem showsContent_cell {content : Option Value} {place : Nat} {variable_ : String}
    (known : w.functions[i]? = some function)
    (there : function.captured[place]? = some (variable_, content)) (label : Value) :
    w.ShowsContent (some (label, .cell i place)) content := by
  have front : w.frontHook? (.cell i place) = none := by
    rw [frontHook?, classOf, typeMember?_native]
    rfl
  have back : w.backHook? (.cell i place) = none := by
    rw [backHook?, classOf, typeMember?_native]
    rfl
  have member : w.typeMember? (w.classOf (.cell i place)) "cell_contents" =
      some (.nativeMember (.native .cell) .getset "cell_contents") := typeMember?_native ..
  have held : Attribute.field? w "cell_contents" (.cell i place) = content := by
    rw [Attribute.field?.eq_def]
    simp only [known, there, Option.bind_some]
    rfl
  cases content with
  | some x =>
    refine .filled (shows_field front rfl (.inl rfl) member ?_)
    rw [Attribute.field, Run.outcome_bind_of_ok (Run.outcome_get w), held]
    rfl
  | none =>
    refine .empty (e := .misuse .value "Cell is empty") rfl fun run => ?_
    have used : w.used? (.cell i place) "cell_contents" = some (.member
        (.nativeMember (.native .cell) .getset "cell_contents") (some (.cell i place))
        (w.classOf (.cell i place))) := objectUsed?_native (.inl rfl) member
    rw [Attribute.outcome_get_of_unhooked front back, Attribute.outcome_standardGet run (by simp),
      used]
    show (Attribute.field (.native .cell) "cell_contents" (.cell i place)).outcome w = _
    rw [Attribute.field, Run.outcome_bind_of_ok (Run.outcome_get w), held]
    rfl

section Functions

variable (known : w.functions[i]? = some function)
include known

/-- A field of a function is **read** from the function. -/
theorem outcome_field_function (owner : ClassRef)
    (holds : Attribute.ownFunctionField i function name = some x) (apart : name ≠ "__class__") :
    (Attribute.field owner name (.fn i)).outcome w = (.ok x, w) := by
  have held : Attribute.field? w name (.fn i) = some x := by
    rw [Attribute.field?.eq_def, if_neg apart]
    simp only [known, Option.bind_some, holds]
  rw [Attribute.field, Run.outcome_bind_of_ok (Run.outcome_get w), held]
  rfl

/-- What a field of a function holds is the entry of the function under its name, and it is shown by
the function and by the methods that are bound to it. -/
theorem shows_function {k : NativeKind} (hk : k = .getset ∨ k = .slot)
    (member : w.typeMember? (.native .function) name =
      some (.nativeMember (.native .function) k name))
    (passed : w.typeMember? (.native .method) name = none)
    (holds : Attribute.ownFunctionField i function name = some x) (apart : name ≠ "__class__") :
    w.Shows (.fn i) name (some x) ∧ ∀ r, w.Shows (.bound (.fn i) r) name (some x) := by
  have used : w.objectUsed? (.fn i) name = some (.member (.nativeMember (.native .function) k name)
      (some (.fn i)) (.native .function)) := objectUsed?_native hk member
  have gives (run : Runner) : (TableEntry.give run (.member
      (.nativeMember (.native .function) k name) (some (.fn i)) (.native .function))).outcome w =
        (.ok x, w) := by
    obtain rfl | rfl := hk <;> exact outcome_field_function known _ holds apart
  refine ⟨shows_of_used (Attribute.tellsClass_of_native rfl (by decide)).front used gives,
    fun r => ?_⟩
  have passes : w.used? (.bound (.fn i) r) name = some (.member
      (.nativeMember (.native .function) k name) (some (.fn i)) (.native .function)) := by
    rw [used?, passed]
    exact used
  exact shows_of_used (Attribute.tellsClass_of_native rfl (by decide)).front passes gives

/-- What a function and its methods show **for its code**. -/
theorem shows_function_code :
    w.Shows (.fn i) "__code__" (some (.code i)) ∧
      ∀ r, w.Shows (.bound (.fn i) r) "__code__" (some (.code i)) :=
  shows_function known (.inl rfl) (typeMember?_native ..) (typeMember?_native ..) rfl (by decide)

/-- What a function and its methods show **for its cells**. -/
theorem shows_function_cells :
    w.Shows (.fn i) "__closure__" (some (Attribute.cellsOf i function.captured)) ∧
      ∀ r, w.Shows (.bound (.fn i) r) "__closure__"
        (some (Attribute.cellsOf i function.captured)) :=
  shows_function known (.inr rfl) (typeMember?_native ..) (typeMember?_native ..) rfl (by decide)

/-- What a function and its methods show **for its module**. -/
theorem shows_function_home :
    w.Shows (.fn i) "__module__" (some (function.home.elim .none .str)) ∧
      ∀ r, w.Shows (.bound (.fn i) r) "__module__" (some (function.home.elim .none .str)) :=
  shows_function known (.inr rfl) (typeMember?_native ..) (typeMember?_native ..) rfl (by decide)

/-- The code of a function shows **the names** that the function captures. -/
theorem shows_freevars :
    w.Shows (.code i) "co_freevars"
      (some (.tuple ((function.captured.map Prod.fst).map .str))) := by
  refine shows_field (o := .native .code) (k := .getset) ?_ rfl (.inl rfl)
    (typeMember?_native ..) ?_
  · rw [frontHook?, classOf, typeMember?_native]
    rfl
  · have held : Attribute.field? w "co_freevars" (.code i) =
        some (.tuple ((function.captured.map Prod.fst).map .str)) := by
      rw [Attribute.field?.eq_def]
      simp only [known, Option.map_some, List.map_map]
      rfl
    rw [Attribute.field, Run.outcome_bind_of_ok (Run.outcome_get w), held]
    rfl

/-- What shows the code and the cells of a function shows as `self` **what the function captures**
under that name. -/
theorem showsSelf_of_code (hcode : w.Shows v "__code__" (some (.code i)))
    (hcells : w.Shows v "__closure__" (some (Attribute.cellsOf i function.captured))) :
    w.ShowsSelf v (function.captured.lookup "self").join := by
  rcases split : function.captured with _ | ⟨first, rest⟩
  · rw [split] at hcells
    exact ⟨[], .bare hcode hcells fun run => rfl, .absent⟩
  · rw [← split]
    have cells : Attribute.cellsOf i function.captured =
        .tuple ((List.range function.captured.length).map (.cell i)) := by
      rw [Attribute.cellsOf, split]
      rfl
    have full : w.ShowsTruth (Attribute.cellsOf i function.captured) true := fun run => by
      rw [cells, split, List.length_cons, List.range_succ_eq_map]
      rfl
    refine ⟨_, .pairs hcode nofun hcells full (shows_freevars known) rfl (by rw [cells]; rfl), ?_⟩
    have named : ((function.captured.zipIdx.map fun e => (Value.str e.1.1, Value.cell i e.2)).find?
        fun e => e.1.isStr "self") = (function.captured.zipIdx.find? fun e => "self" == e.1.1).map
          fun e => (Value.str e.1.1, Value.cell i e.2) := by
      rw [List.find?_map]
      rfl
    rw [zip_cells, named]
    rcases found : function.captured.zipIdx.find? fun e => "self" == e.1.1 with _ | ⟨e, place⟩
    · have unfound : function.captured.lookup "self" = none := by
        rw [lookup_eq_find?, Option.map_eq_none_iff, List.find?_eq_none]
        intro e he
        obtain ⟨place, there⟩ := List.getElem?_of_mem he
        exact List.find?_eq_none.1 found (e, place) (List.mem_zipIdx_iff_getElem?.2 there)
      rw [found, unfound]
      exact .absent
    · obtain ⟨there, content⟩ := find?_zipIdx found
      rw [found, content]
      exact showsContent_cell known there _

omit known in
/-- The name of a home, or none, is **fit for a key**. -/
theorem fitsKey_home (home : Option String) : ((home.elim Value.none .str)).fitsKey = true := by
  cases home <;> rw [Option.elim, Value.fitsKey.eq_def]

/-- A **function** is candid, unless it was given a receiver that does not tell its class. -/
theorem candid_fn (own : ∀ r, function.attrs.find? "__self__" = some r → w.TellsClass r) :
    w.Candid (.fn i) := by
  have tells : w.TellsClass (.fn i) := Attribute.tellsClass_of_native rfl (by decide)
  have self : w.Shows (.fn i) "__self__" (function.attrs.find? "__self__") := by
    have used : w.used? (.fn i) "__self__" = (function.attrs.find? "__self__").map .own := by
      show w.objectUsed? (.fn i) "__self__" = _
      rw [objectUsed?, show w.typeMember? (w.classOf (.fn i)) "__self__" = none from
        typeMember?_native .., ownAttrs?, known]
      rfl
    cases found : function.attrs.find? "__self__" with
    | none => exact shows_none tells (by rw [used, found]; rfl) (by simp)
    | some r => exact shows_of_used tells.front (by rw [used, found]; rfl) fun _ => rfl
  exact candid_of_shown tells rfl self own
    (showsSelf_of_code known (shows_function_code known).1 (shows_function_cells known).1)
    (shows_function_home known).1 (fitsKey_home _)

/-- A **method** is candid if what it is bound to tells its class. -/
theorem candid_bound (receiver : w.TellsClass r) : w.Candid (.bound (.fn i) r) := by
  have tells : w.TellsClass (.bound (.fn i) r) := Attribute.tellsClass_of_native rfl (by decide)
  have used : w.used? (.bound (.fn i) r) "__self__" = some (.member
      (.nativeMember (.native .method) .slot "__self__") (some (.bound (.fn i) r))
      (.native .method)) := by
    rw [used?, typeMember?_native]
    rfl
  have self : w.Shows (.bound (.fn i) r) "__self__" (some r) :=
    shows_of_used tells.front used fun _ => rfl
  exact candid_of_shown tells rfl self (by rintro _ ⟨⟩; exact receiver)
    (showsSelf_of_code known ((shows_function_code known).2 r) ((shows_function_cells known).2 r))
    ((shows_function_home known).2 r) (fitsKey_home _)

end Functions

/-- A name that neither the class nor the object holds is used by no entry. -/
theorem objectUsed?_none (member : w.typeMember? (w.classOf v) name = none)
    (own : (w.ownAttrs? v).bind (·.find? name) = none) : w.objectUsed? v name = none := by
  rw [objectUsed?, member, own]
  rfl

/-- A **builtin** is candid: a function, which is bound to the kernel module, and a method if what
it is bound to tells its class. -/
theorem candid_builtin {home : Value} (cls : w.classOf v = .native .builtin)
    (ordinary : ∀ name, w.used? v name = w.objectUsed? v name) (bare : w.ownAttrs? v = none)
    (proper : ∀ i, v ≠ .module i)
    (self : (Attribute.field (.native .builtin) "__self__" v).outcome w = (.ok r, w))
    (receiver : w.TellsClass r)
    (place : (Attribute.field (.native .builtin) "__module__" v).outcome w = (.ok home, w))
    (fit : home.fitsKey = true) : w.Candid v := by
  have tells : w.TellsClass v := Attribute.tellsClass_of_native cls (by decide)
  have missing {name : String} (unlisted : w.typeMember? (w.classOf v) name = none) :
      w.Shows v name none :=
    shows_none tells ((ordinary _).trans (objectUsed?_none unlisted (by rw [bare]; rfl))) proper
  refine candid_of_shown tells (by rw [cls]; rfl)
    (shows_field tells.front (ordinary _) (.inl rfl) ?_ self) (by rintro _ ⟨⟩; exact receiver)
    ⟨[], .codeless (missing ?_) (missing ?_) rfl, .absent⟩
    (shows_field tells.front (ordinary _) (.inr rfl) ?_ place) fit
  all_goals
    rw [cls]
    exact typeMember?_native ..

/-- A function of the kernel module is candid. -/
theorem candid_nativeFn (name : String) : w.Candid (.nativeFn name) :=
  candid_builtin rfl (fun _ => rfl) rfl (by simp) rfl
    (Attribute.tellsClass_of_native rfl (by decide)) rfl (fitsKey_home (some "builtins"))

/-- A method of a native class is candid if its receiver tells its class. -/
theorem candid_nativeMethod (name : String) (receiver : w.TellsClass r) :
    w.Candid (.nativeMethod name r) :=
  candid_builtin rfl (fun _ => rfl) rfl (by simp) rfl receiver rfl (fitsKey_home none)

end World

/-! ### What is captured stays -/

namespace Closure

variable {w w₁ w₂ w₃ w₄ : World} {n : Nat} {v f o : Value} {c : Closure} {ids : List ObjectId}
  {s : Setup} {id : ResolverId} {variant : Variant}

/-- A closure **stores** the outer context that is inferred for it. -/
theorem outcome_make_inferred {run : Runner} (callable : w.isCallable f = true)
    (infers : (inferOuter run f).outcome w = (.ok o, w₁)) :
    (make run f none).outcome w = (.ok ⟨f, o⟩, w₁) := by
  cases f with
  | none => cases callable
  | _ =>
    refine (Run.outcome_bind_of_ok (Run.outcome_reading _ w)).trans ?_
    rw [if_pos callable]
    exact Run.outcome_bind_of_ok infers

/-- The outer context of a resolver is the one of **its closure**, and stays it. -/
theorem outer_of_resolver {c : Closure}
    (made : (Resolver.ofClosure (Interpreter.runner n) variant (.parts c) s).outcome w =
      (.ok id, w₁))
    (later : Course (Interpreter.runner n) w₁ w₂) :
    ∃ r, w₂.resolvers[id]? = some r ∧ r.fn = c.fn ∧ r.outer = c.outer := by
  obtain ⟨d, _, -, stored⟩ := Resolver.of_ofClosure made
  have kept : Kept fun w => w.resolvers[id]? = some
      ⟨variant, c.fn, c.outer, d, s.inner, kernelOf s.kernel, s.observer⟩ :=
    ⟨fun hc => hc.resolver_stays, fun _ h => h⟩
  exact ⟨_, kept.course later (fun t _ => Interpreter.runner_keeps kept n t) stored, rfl, rfl⟩

/-- A resolver that is made **of a closure** has its outer context, whatever has happened since. -/
theorem outer_stays (h : w.IsClosure v c) (since : Course (Interpreter.runner n) w w₁)
    (made : (Resolver.make (Interpreter.runner n) variant v s).outcome w₁ = (.ok id, w₂))
    (later : Course (Interpreter.runner n) w₂ w₃) :
    ∃ r, w₃.resolvers[id]? = some r ∧ r.fn = c.fn ∧ r.outer = c.outer := by
  have still : w₁.IsClosure v c := (World.kept_isClosure v c).course since
    (fun t _ => Interpreter.runner_keeps (World.kept_isClosure v c) n t) h
  rw [Resolver.make, Run.outcome_bind_of_ok still.outcome_wrap] at made
  exact outer_of_resolver made later

/-- A capsule of a closure keeps **its parts**. -/
theorem capsule_of_make {visibility : Value} {k : CapsuleId} (h : w.IsClosure v c)
    (made : (Capsule.make (Interpreter.runner n) v visibility s).outcome w = (.ok k, w₁)) :
    ∃ cap, w₁.capsules[k]? = some cap ∧ cap.closure = .parts c := by
  obtain ⟨i, o, rfl, -⟩ := id h
  obtain ⟨variant, w₂, required, made⟩ := Run.outcome_bind_ok_iff.1 made
  have still : w₂.IsClosure (.object i) c := by
    have kept : ((requireVariant (Interpreter.runner n) visibility).outcome w).2.IsClosure
        (.object i) c :=
      (follows_requireVariant visibility).keeps (World.kept_isClosure (.object i) c) h
    rwa [required] at kept
  rw [Run.outcome_bind_of_ok still.outcome_wrap] at made
  obtain ⟨d, w₃, -, made⟩ := Run.outcome_bind_ok_iff.1 made
  obtain ⟨shown, w₄, -, made⟩ := Run.outcome_bind_ok_iff.1 made
  rw [Run.outcome_bind_of_ok (Run.outcome_reading _ _),
    Run.outcome_bind_of_ok (Run.outcome_modify _ _)] at made
  cases made
  exact ⟨_, Array.getElem?_push_size, rfl⟩

/-- So has one that is made by a **capsule** of the closure. -/
theorem outer_stays_in_capsule {visibility : Value} {k : CapsuleId} {inner : List Value}
    {d shown : Value} (h : w.IsClosure v c) (since : Course (Interpreter.runner n) w w₁)
    (encapsulated : (Capsule.make (Interpreter.runner n) v visibility s).outcome w₁ = (.ok k, w₂))
    (later : Course (Interpreter.runner n) w₂ w₃)
    (made : (do (← capsuleAt k).resolver (Interpreter.runner n) inner d shown :
      Run ResolverId).outcome w₃ = (.ok id, w₄)) {w₅ : World}
    (last : Course (Interpreter.runner n) w₄ w₅) :
    ∃ r, w₅.resolvers[id]? = some r ∧ r.fn = c.fn ∧ r.outer = c.outer := by
  have still : w₁.IsClosure v c := (World.kept_isClosure v c).course since
    (fun t _ => Interpreter.runner_keeps (World.kept_isClosure v c) n t) h
  obtain ⟨cap, stored, parts⟩ := capsule_of_make still encapsulated
  have kept : Kept fun w => w.capsules[k]? = some cap := ⟨fun hc => hc.capsule_stays, fun _ h => h⟩
  have there := kept.course later (fun t _ => Interpreter.runner_keeps kept n t) stored
  rw [Run.outcome_bind_of_ok (Capsule.outcome_capsuleAt there)] at made
  obtain ⟨_, w₆, -, made⟩ := Run.outcome_bind_ok_iff.1 made
  obtain ⟨variant, w₇, -, made⟩ := Run.outcome_bind_ok_iff.1 made
  rw [parts, KeptClosure.again, pure_bind] at made
  exact outer_of_resolver made last

/-- Partial calls around a callable **do not matter** for its outer context, however many they are.
The outer context of a candid callable is inferred without an error, it is the **first** of what can
be one, and a closure of the callable stores it. Every resolver that is made of the closure, by
itself or through a capsule, now or later and whatever has happened since, **keeps it**. What shows
the code and the cells of a function has the `self` that the function captures; so have the function
and its methods. -/
theorem inferOuter_order (n : Nat) (layers : Layered w v ids f) :
    (∀ run, inferOuter run v w = inferOuter run f w) ∧
    (partialOf? w f = none → w.Candid f → ∃ o w₁, OuterOf w f o w₁ ∧
      (∀ run, (inferOuter run v).outcome w = (.ok o, w₁)) ∧
      (w.isCallable v = true →
        (∀ run, (make run v none).outcome w = (.ok ⟨v, o⟩, w₁)) ∧
        ∃ closure w₂, (toValue ⟨v, o⟩).outcome w₁ = (.ok closure, w₂) ∧
          ∀ w₃, Course (Interpreter.runner n) w₂ w₃ →
            (∀ variant s id w₄ w₅,
              (Resolver.make (Interpreter.runner n) variant closure s).outcome w₃ = (.ok id, w₄) →
              Course (Interpreter.runner n) w₄ w₅ →
              ∃ r, w₅.resolvers[id]? = some r ∧ r.fn = v ∧ r.outer = o) ∧
            (∀ visibility s k w₄ w₅ inner d shown id w₆ w₇,
              (Capsule.make (Interpreter.runner n) closure visibility s).outcome w₃ = (.ok k, w₄) →
              Course (Interpreter.runner n) w₄ w₅ →
              (do (← capsuleAt k).resolver (Interpreter.runner n) inner d shown :
                Run ResolverId).outcome w₅ = (.ok id, w₆) →
              Course (Interpreter.runner n) w₆ w₇ →
              ∃ r, w₇.resolvers[id]? = some r ∧ r.fn = v ∧ r.outer = o))) ∧
    ∀ i function, w.functions[i]? = some function →
      (∀ x, w.Shows x "__code__" (some (.code i)) →
        w.Shows x "__closure__" (some (Attribute.cellsOf i function.captured)) →
        w.ShowsSelf x (function.captured.lookup "self").join) ∧
      w.ShowsSelf (.fn i) (function.captured.lookup "self").join ∧
      ∀ x, w.ShowsSelf (.bound (.fn i) x) (function.captured.lookup "self").join := by
  refine ⟨fun run => inferOuter_layers run layers, fun bare candid => ?_, fun i function known =>
    ⟨fun x => World.showsSelf_of_code known,
      World.showsSelf_of_code known (World.shows_function_code known).1
        (World.shows_function_cells known).1,
      fun x => World.showsSelf_of_code known ((World.shows_function_code known).2 x)
        ((World.shows_function_cells known).2 x)⟩⟩
  obtain ⟨o, w₁, first, infers⟩ := inferOuter_candid bare candid
  have inferred (run : Runner) : (inferOuter run v).outcome w = (.ok o, w₁) := by
    rw [Run.outcome, inferOuter_layers run layers]
    exact infers run
  refine ⟨o, w₁, first, inferred, fun callable =>
    ⟨fun run => outcome_make_inferred callable (inferred run), _, _, rfl, fun w₃ since =>
      ⟨fun variant s id w₄ w₅ made later => ?_,
        fun visibility s k w₄ w₅ inner d shown id w₆ w₇ encapsulated later made last => ?_⟩⟩⟩
  · exact outer_stays (World.isClosure_toValue (c := ⟨v, o⟩) rfl) since made later
  · exact outer_stays_in_capsule (World.isClosure_toValue (c := ⟨v, o⟩) rfl) since encapsulated
      later made last

/-- A world with a page, a method that is bound to it, and two partial calls around the method. -/
def pageWorld : World :=
  { World.empty with
    classes := #[plainClass 0 "Page" []]
    objects := #[plainObject "page" 0 [],
      ⟨none, .native .partialCall, some [], [], .partialCall (.bound (.fn 0) (.object 0))⟩,
      ⟨none, .native .partialCall, some [], [], .partialCall (.object 1)⟩]
    functions := #[plainFunction "body" (.script [])] }

/-- A page under two layers of partial calls meets the conditions, and its receiver is inferred. -/
theorem inferOuter_order_page :
    Layered pageWorld (.object 2) [2, 1] (.bound (.fn 0) (.object 0)) ∧
    pageWorld.Candid (.bound (.fn 0) (.object 0)) ∧ pageWorld.isCallable (.object 2) = true ∧
    (∃ o w₁, OuterOf pageWorld (.bound (.fn 0) (.object 0)) o w₁ ∧
      ∀ run, (make run (.object 2) none).outcome pageWorld = (.ok ⟨.object 2, o⟩, w₁)) := by
  have layers : Layered pageWorld (.object 2) [2, 1] (.bound (.fn 0) (.object 0)) :=
    .layer rfl (.layer rfl (.bare _))
  have tells : pageWorld.TellsClass (.object 0) := ⟨rfl, rfl, rfl⟩
  have known : pageWorld.functions[0]? = some (plainFunction "body" (.script [])) := rfl
  have candid : pageWorld.Candid (.bound (.fn 0) (.object 0)) := World.candid_bound known tells
  have callable : pageWorld.isCallable (.object 2) = true := rfl
  obtain ⟨o, w₁, first, -, stored⟩ := (inferOuter_order 10 layers).2.1 rfl candid
  exact ⟨layers, candid, callable, o, w₁, first, (stored callable).1⟩

/-- A world with an object whose class refuses every access, and one that is called and has what is
no code for its code. -/
def guardedWorld : World :=
  { World.empty with
    classes := #[plainClass 0 "Guarded" [("__getattribute__", .fn 1)],
      plainClass 1 "Coded" [("__call__", .fn 0)]]
    objects := #[plainObject "guarded" 0 [],
      plainObject "coded" 1 [("__code__", .int 5), ("__closure__", .tuple [.int 1])]]
    functions := #[plainFunction "body" (.script []),
      plainFunction "Guarded.__getattribute__" (.silent (.raise .type "refused"))] }

/-- A method that is bound to a **module** does not capture it, one that is bound to what refuses to
tell its class **cannot be wrapped**, and neither can what has no code for its code. -/
theorem inferOuter_passes_over :
    (∃ w', (inferOuter (Interpreter.runner 10) (.bound (.fn 0) (.module 0))).outcome guardedWorld =
      (.ok (.object 2), w')) ∧
    (∃ w', (inferOuter (Interpreter.runner 10) (.bound (.fn 0) (.object 0))).outcome guardedWorld =
      (.error (.raised (.raised .type "refused")), w')) ∧
    (∃ w', (inferOuter (Interpreter.runner 10) (.object 1)).outcome guardedWorld =
      (.error (.raised (.noAttribute "int" "co_freevars")), w')) :=
  ⟨⟨_, Run.eq_of_gave (by decide +kernel)⟩, ⟨_, Run.eq_of_failed (by decide +kernel)⟩,
    _, Run.eq_of_failed (by decide +kernel)⟩

end Closure

end OrderedScope
