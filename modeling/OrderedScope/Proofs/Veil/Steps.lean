import OrderedScope.Attribute.Mark
import OrderedScope.Proofs.Course

/-!
# Runs Under a Veil

To mark functions as restricted lays a **veil** over a world: nothing changes but the own attributes
of these functions, and of these nothing but the mark. A run is **blind** to the veil if it ends in
the same way with it and without it, and leaves worlds that differ in it alone.

A run is blind if its parts are. What it reads of a world does not depend on the attributes of
functions, or on no other attribute than the mark; what it changes, it changes alike under the veil;
and what it hands over to its runner is for the runner to answer for.

## Main results

* `Veil.Relates.bind`, `Veil.Relates.recover`: rules for composed runs whose ends are related.
* `Veil.Blind.get_bind`: what is done with a world that was just read.
* `Veil.Alike.own_eq`: apart from the mark, the own attributes of a value are the same.
-/

namespace OrderedScope

/-! ### Worlds that differ in marks -/

/-- A world with **other functions**. -/
def World.withFunctions (w : World) (fs : Array FunctionRec) : World := { w with functions := fs }

/-- A function with the **mark**, and otherwise the same. -/
structure FunctionRec.Marked (f f' : FunctionRec) : Prop where
  name_eq : f'.name = f.name
  home_eq : f'.home = f.home
  code_eq : f'.code = f.code
  captured_eq : f'.captured = f.captured
  attrs_eq : ∀ name, name ≠ restrictedMark → f'.attrs.find? name = f.attrs.find? name
  mark : f'.attrs.find? restrictedMark = some (.bool true)

/-- The second world is the first with some functions **marked**. -/
structure MarkedIn (marks : FunctionId → Bool) (w w' : World) : Prop where
  rest : w' = w.withFunctions w'.functions
  size : w'.functions.size = w.functions.size
  marked : ∀ i f, marks i = true → w.functions[i]? = some f →
    ∃ f', w'.functions[i]? = some f' ∧ f.Marked f'
  unmarked : ∀ i, marks i = false → w'.functions[i]? = w.functions[i]?

/-- A **veil**: the functions that are marked, and the worlds that it is laid over. These hold the
functions; whether what such a function already holds under the name of the mark counts as true is
found out without anything else happening; and an event on record makes no other world of one of
them. -/
structure Veil where
  marks : FunctionId → Bool
  covers : World → Prop
  placed : ∀ w i, covers w → marks i = true → i < w.functions.size
  plain : ∀ w i, covers w → marks i = true → ∀ x,
    (w.ownAttrs? (.fn i)).bind (·.find? restrictedMark) = some x →
      ∀ run, ∃ b, (x.truthy run).outcome w = (.ok b, w)
  told : ∀ w e, covers w → covers { w with observed := e :: w.observed }

namespace World

/-! ### Reading beside the functions -/

section Readings

variable (w : World) (fs : Array FunctionRec)

@[simp, grind =] theorem withFunctions_functions : (w.withFunctions fs).functions = fs := rfl

@[simp, grind =] theorem withFunctions_classes : (w.withFunctions fs).classes = w.classes := rfl

@[simp, grind =] theorem withFunctions_objects : (w.withFunctions fs).objects = w.objects := rfl

@[simp, grind =] theorem withFunctions_modules : (w.withFunctions fs).modules = w.modules := rfl

@[simp, grind =] theorem withFunctions_growing : (w.withFunctions fs).growing = w.growing := rfl

@[simp, grind =] theorem withFunctions_resolvers :
    (w.withFunctions fs).resolvers = w.resolvers := rfl

@[simp, grind =] theorem withFunctions_capsules : (w.withFunctions fs).capsules = w.capsules := rfl

@[simp, grind =] theorem withFunctions_observed : (w.withFunctions fs).observed = w.observed := rfl

@[simp, grind =] theorem withFunctions_logLevel : (w.withFunctions fs).logLevel = w.logLevel := rfl

@[simp, grind =] theorem withFunctions_ambient : (w.withFunctions fs).ambient = w.ambient := rfl

@[simp, grind =] theorem withFunctions_closures : (w.withFunctions fs).closures = w.closures := rfl

@[simp, grind =] theorem withFunctions_handles : (w.withFunctions fs).handles = w.handles := rfl

@[simp, grind =] theorem withFunctions_scopes : (w.withFunctions fs).scopes = w.scopes := rfl

@[simp, grind =] theorem withFunctions_metaclassOf (c : ClassRef) :
    (w.withFunctions fs).metaclassOf c = w.metaclassOf c := rfl

@[simp, grind =] theorem withFunctions_classOf (v : Value) :
    (w.withFunctions fs).classOf v = w.classOf v := by
  cases v with
  | nativeMember _ kind _ => cases kind <;> rfl
  | _ => rfl

@[simp, grind =] theorem withFunctions_lineOf (c : ClassRef) :
    (w.withFunctions fs).lineOf c = w.lineOf c := rfl

@[simp, grind =] theorem withFunctions_ownMembers (c : ClassRef) :
    (w.withFunctions fs).ownMembers c = w.ownMembers c := rfl

@[simp, grind =] theorem withFunctions_ownMember? (c : ClassRef) (name : String) :
    (w.withFunctions fs).ownMember? c name = w.ownMember? c name := rfl

@[simp, grind =] theorem withFunctions_typeMember? (c : ClassRef) (name : String) :
    (w.withFunctions fs).typeMember? c name = w.typeMember? c name := rfl

@[simp, grind =] theorem withFunctions_isSubclass (c d : ClassRef) :
    (w.withFunctions fs).isSubclass c d = w.isSubclass c d := rfl

@[simp, grind =] theorem withFunctions_isClass (v : Value) :
    (w.withFunctions fs).isClass v = w.isClass v := by
  simp [isClass]

@[simp, grind =] theorem withFunctions_className (c : ClassRef) :
    (w.withFunctions fs).className c = w.className c := rfl

@[simp, grind =] theorem withFunctions_fullName (c : ClassRef) :
    (w.withFunctions fs).fullName c = w.fullName c := by
  cases c <;> rfl

@[simp, grind =] theorem withFunctions_homeOf (c : ClassRef) :
    (w.withFunctions fs).homeOf c = w.homeOf c := rfl

@[simp, grind =] theorem withFunctions_findModule? (name : String) :
    (w.withFunctions fs).findModule? name = w.findModule? name := rfl

@[simp, grind =] theorem withFunctions_findClass? (name : String) :
    (w.withFunctions fs).findClass? name = w.findClass? name := rfl

@[simp, grind =] theorem withFunctions_findObject? (id : String) :
    (w.withFunctions fs).findObject? id = w.findObject? id := rfl

@[simp, grind =] theorem withFunctions_payload? (i : ObjectId) :
    (w.withFunctions fs).payload? i = w.payload? i := rfl

@[simp, grind =] theorem withFunctions_slotValue? (i : ObjectId) (owner : Nat) (name : String) :
    (w.withFunctions fs).slotValue? i owner name = w.slotValue? i owner name := rfl

@[simp, grind =] theorem withFunctions_controlsRead (raw : Value) :
    (w.withFunctions fs).controlsRead raw = w.controlsRead raw := by
  simp [controlsRead]

@[simp, grind =] theorem withFunctions_controlsWrite (raw : Value) :
    (w.withFunctions fs).controlsWrite raw = w.controlsWrite raw := by
  simp [controlsWrite]

@[simp, grind =] theorem withFunctions_isCallable (v : Value) :
    (w.withFunctions fs).isCallable v = w.isCallable v := by
  simp [isCallable]

@[simp, grind =] theorem withFunctions_tableOverride? (c : ClassRef) :
    (w.withFunctions fs).tableOverride? c = w.tableOverride? c := rfl

@[simp, grind =] theorem withFunctions_platform : (w.withFunctions fs).platform = w.platform := rfl

@[simp, grind =] theorem withFunctions_content? (v : Value) :
    (w.withFunctions fs).content? v = w.content? v := by
  cases v with
  | object i => simp [content?]
  | _ => rfl

@[simp, grind =] theorem withFunctions_heldItems? (v : Value) :
    (w.withFunctions fs).heldItems? v = w.heldItems? v := by
  simp [heldItems?.eq_def]

@[simp, grind =] theorem withFunctions_ownHook? (v : Value) (name : String) :
    (w.withFunctions fs).ownHook? v name = w.ownHook? v name := by
  simp [ownHook?]

@[simp, grind =] theorem withFunctions_hashedParts (v : Value) :
    v.hashedParts (w.withFunctions fs) = v.hashedParts w := by
  cases v with
  | object i => simp [Value.hashedParts]
  | _ => rfl

@[simp, grind =] theorem withFunctions_refusesHash (v : Value) :
    v.refusesHash (w.withFunctions fs) = v.refusesHash w := by
  cases v with
  | object i => simp [Value.refusesHash]
  | _ => rfl

@[simp] theorem withFunctions_classField (c : ClassRef) (name : String) :
    Attribute.classField (w.withFunctions fs) c name = Attribute.classField w c name := rfl

@[simp] theorem withFunctions_objectField (i : ObjectId) (name : String) :
    Attribute.objectField (w.withFunctions fs) i name = Attribute.objectField w i name := rfl

/-- Only a function holds attributes among the functions. -/
theorem withFunctions_ownAttrs? {v : Value} (h : ∀ i, v ≠ .fn i) :
    (w.withFunctions fs).ownAttrs? v = w.ownAttrs? v := by
  cases v with
  | fn i => exact absurd rfl (h i)
  | _ => rfl

end Readings

end World

namespace MarkedIn

variable {marks : FunctionId → Bool} {w w' : World}

/-- A reading beside the functions is **the same** in both worlds. -/
theorem reads {α : Type} (h : MarkedIn marks w w') {f : World → α}
    (hf : ∀ w fs, f (World.withFunctions w fs) = f w) : f w' = f w := by
  rw [h.rest, hf]

/-- A function of one world has its counterpart in the other, with the same code. -/
theorem function (h : MarkedIn marks w w') (i : FunctionId) :
    w'.functions[i]? = w.functions[i]? ∨
      ∃ f f', w.functions[i]? = some f ∧ w'.functions[i]? = some f' ∧ f.Marked f' := by
  cases hm : marks i with
  | false => exact Or.inl (h.unmarked i hm)
  | true =>
      rcases hf : w.functions[i]? with _ | f
      · left
        rw [Array.getElem?_eq_none_iff] at hf ⊢
        rw [h.size]
        exact hf
      · obtain ⟨f', hf', key⟩ := h.marked i f hm hf
        exact Or.inr ⟨f, f', rfl, hf', key⟩

/-- A reading of a function that does not look at its attributes is the same in both worlds. -/
theorem function_bind {α : Type} (h : MarkedIn marks w w') (i : FunctionId)
    {g : FunctionRec → Option α} (hg : ∀ f f' : FunctionRec, f.Marked f' → g f' = g f) :
    (w'.functions[i]?).bind g = (w.functions[i]?).bind g := by
  rcases h.function i with same | ⟨f, f', hf, hf', key⟩
  · rw [same]
  · rw [hf, hf']
    exact hg f f' key

/-- What a mark does not change of a function is the same in both worlds, with a default where there
is none. -/
theorem function_elim {α : Type} (h : MarkedIn marks w w') (i : FunctionId) (a : α)
    {g : FunctionRec → α} (hg : ∀ f f' : FunctionRec, f.Marked f' → g f' = g f) :
    (w'.functions[i]?).elim a g = (w.functions[i]?).elim a g := by
  rcases h.function i with same | ⟨f, f', hf, hf', key⟩
  · rw [same]
  · rw [hf, hf']
    exact hg f f' key

/-- A mark leaves the name of a function. -/
theorem functionName (h : MarkedIn marks w w') (i : FunctionId) :
    w'.functionName i = w.functionName i :=
  h.function_elim i "" fun _ _ key => key.name_eq

/-- **Apart from the mark**, the own attributes of a value are the same. -/
theorem own_eq (h : MarkedIn marks w w') (v : Value) {name : String} (hn : name ≠ restrictedMark) :
    (w'.ownAttrs? v).bind (·.find? name) = (w.ownAttrs? v).bind (·.find? name) := by
  cases v with
  | fn i =>
      simp only [World.ownAttrs?, Option.bind_map]
      exact h.function_bind i fun _ _ key => key.attrs_eq name hn
  | _ =>
      rw [h.rest]
      rfl

/-- Whether a value can hold attributes does not depend on marks. -/
theorem own_isSome (h : MarkedIn marks w w') (v : Value) :
    (w'.ownAttrs? v).isSome = (w.ownAttrs? v).isSome := by
  cases v with
  | fn i =>
      simp only [World.ownAttrs?, Option.isSome_map]
      rcases h.function i with same | ⟨f, f', hf, hf', -⟩
      · rw [same]
      · rw [hf, hf']
        rfl
  | _ =>
      rw [h.rest]
      rfl

end MarkedIn

/-! ### Ends -/

/-- Two ends are **related**: both give related values, or both the same failure. -/
inductive EndsAlike {α β : Type} (R : α → β → Prop) : Except Fault α → Except Fault β → Prop
  | ok {a : α} {b : β} : R a b → EndsAlike R (.ok a) (.ok b)
  | error (f : Fault) : EndsAlike R (.error f) (.error f)

/-- Ends that are alike by equality **are equal**. -/
theorem EndsAlike.eq {α : Type} {a b : Except Fault α} (h : EndsAlike Eq a b) : a = b := by
  cases h with
  | ok h => rw [h]
  | error f => rfl

/-- Ends that are alike in one way are alike in any weaker way. -/
theorem EndsAlike.imp {α β : Type} {R S : α → β → Prop} {a : Except Fault α} {b : Except Fault β}
    (h : EndsAlike R a b) (hRS : ∀ a b, R a b → S a b) : EndsAlike S a b := by
  cases h with
  | ok h => exact .ok (hRS _ _ h)
  | error f => exact .error f

namespace Veil

variable (V : Veil)

/-- Two worlds are **alike** but for the veil. -/
structure Alike (w w' : World) : Prop extends MarkedIn V.marks w w' where
  covered : V.covers w

/-- Two runs have **related ends** without the veil and under it, and leave worlds that are alike
but for it. -/
def Relates {α β : Type} (R : α → β → Prop) (x : Run α) (y : Run β) : Prop :=
  ∀ w w', V.Alike w w' →
    V.Alike (x.outcome w).2 (y.outcome w').2 ∧ EndsAlike R (x.outcome w).1 (y.outcome w').1

/-- A run is **blind** to a veil: it ends in the same way without the veil and under it. -/
def Blind {α : Type} (x : Run α) : Prop := V.Relates Eq x x

variable {V} {α β γ δ : Type}

/-- A change **beside the functions** keeps worlds alike. -/
theorem Alike.change_beside {w w' : World} (alike : V.Alike w w') {f : World → World}
    (apart : ∀ w fs, f (World.withFunctions w fs) = (f w).withFunctions fs)
    (same : ∀ w, (f w).functions = w.functions) (covered : ∀ w, V.covers w → V.covers (f w)) :
    V.Alike (f w) (f w') where
  rest := by rw [same, ← apart, ← alike.rest]
  size := by rw [same, same, alike.size]
  marked := by
    rw [same, same]
    exact alike.marked
  unmarked := by
    rw [same, same]
    exact alike.unmarked
  covered := covered w alike.covered

/-! ### Related runs -/

namespace Relates

/-- Values that are related end alike. -/
theorem pure {R : α → β → Prop} {a : α} {b : β} (h : R a b) :
    V.Relates R (Pure.pure a) (Pure.pure b) := fun _ _ alike => ⟨alike, .ok h⟩

/-- A fault ends alike with itself. -/
theorem throw {R : α → β → Prop} (f : Fault) : V.Relates R (throw f) (throw f) :=
  fun _ _ alike => ⟨alike, .error f⟩

/-- Runs that are related in one way are related in any weaker way. -/
theorem imp {R S : α → β → Prop} {x : Run α} {y : Run β} (h : V.Relates R x y)
    (hRS : ∀ a b, R a b → S a b) : V.Relates S x y := fun w w' alike =>
  ⟨(h w w' alike).1, (h w w' alike).2.imp hRS⟩

/-- Runs that go on have related ends if they **begin** with related ends and **go on** with related
ends from related values. -/
theorem bind {R : α → β → Prop} {S : γ → δ → Prop} {x : Run α} {y : Run β} {f : α → Run γ}
    {g : β → Run δ} (h : V.Relates R x y) (hf : ∀ a b, R a b → V.Relates S (f a) (g b)) :
    V.Relates S (x >>= f) (y >>= g) := by
  intro w w' alike
  obtain ⟨after, ends⟩ := h w w' alike
  rw [Run.outcome_bind, Run.outcome_bind]
  rcases hx : x.outcome w with ⟨e | a, w₁⟩ <;> rcases hy : y.outcome w' with ⟨e' | b, w₁'⟩ <;>
    rw [hx, hy] at after ends <;> cases ends
  · exact ⟨after, .error _⟩
  · rename_i related
    exact hf a b related w₁ w₁' after

/-- Related runs stay related under functions that keep their values related. -/
theorem map {R : α → β → Prop} {S : γ → δ → Prop} {x : Run α} {y : Run β} {f : α → γ} {g : β → δ}
    (h : V.Relates R x y) (hf : ∀ a b, R a b → S (f a) (g b)) :
    V.Relates S (f <$> x) (g <$> y) := by
  rw [← bind_pure_comp, ← bind_pure_comp]
  exact h.bind fun a b related => pure (hf a b related)

/-- Related runs stay related under **handlers** that are. -/
theorem recover {R : α → β → Prop} {handled : Error → Bool} {x : Run α} {y : Run β}
    {f : Error → Run α} {g : Error → Run β} (h : V.Relates R x y)
    (hf : ∀ e, handled e = true → V.Relates R (f e) (g e)) :
    V.Relates R (Run.recover handled x f) (Run.recover handled y g) := by
  intro w w' alike
  obtain ⟨after, ends⟩ := h w w' alike
  rw [Run.outcome_recover, Run.outcome_recover]
  rcases hx : x.outcome w with ⟨(e | _) | a, w₁⟩ <;>
    rcases hy : y.outcome w' with ⟨(e' | _) | b, w₁'⟩ <;> rw [hx, hy] at after ends <;> cases ends
  · simp only
    split
    · rename_i handled
      exact hf e handled w₁ w₁' after
    · exact ⟨after, .error _⟩
  · exact ⟨after, .error _⟩
  · rename_i related
    exact ⟨after, .ok related⟩

/-- A missing attribute is missed in both runs. -/
theorem optional {R : α → β → Prop} {x : Run α} {y : Run β} (h : V.Relates R x y) :
    V.Relates (Option.Rel R) (Run.optional x) (Run.optional y) :=
  (h.map fun _ _ related => .some related).recover fun _ _ => pure .none

/-- What is done with the worlds that were just read. -/
theorem get_bind {R : α → β → Prop} {f : World → Run α} {g : World → Run β}
    (h : ∀ w w', V.Alike w w' → V.Relates R (f w) (g w')) :
    V.Relates R (get >>= f) (get >>= g) := fun w w' alike => by
  rw [Run.outcome_bind_of_ok (Run.outcome_get w), Run.outcome_bind_of_ok (Run.outcome_get w')]
  exact h w w' alike w w' alike

/-- What is done with what was just read beside the functions, in a world that the veil covers. -/
theorem reading_bind {R : α → β → Prop} {read : World → γ} {f : γ → Run α} {g : γ → Run β}
    (hr : ∀ w fs, read (World.withFunctions w fs) = read w)
    (h : ∀ w, V.covers w → V.Relates R (f (read w)) (g (read w))) :
    V.Relates R (Run.reading read >>= f) (Run.reading read >>= g) := fun w w' alike => by
  rw [Run.outcome_bind_of_ok (Run.outcome_reading read w),
    Run.outcome_bind_of_ok (Run.outcome_reading read w'), alike.reads hr]
  exact h w alike.covered w w' alike

end Relates

/-! ### Blind runs -/

namespace Blind

variable {x : Run α} {f : α → Run β}

/-- A value alone is blind. -/
@[grind ←] theorem pure (a : α) : V.Blind (Pure.pure a : Run α) := Relates.pure rfl

/-- A fault alone is blind. -/
@[grind ←] theorem throw (f : Fault) : V.Blind (throw f : Run α) := Relates.throw f

/-- An error alone is blind. -/
@[grind ←] theorem raise (e : Error) : V.Blind (Run.raise e : Run α) := Relates.throw _

/-- To put out a message is blind: no world holds it. -/
@[grind ←] theorem tell (level : LogLevel) (text : String) : V.Blind (Run.tell level text) :=
  fun _ _ alike => ⟨alike, .ok rfl⟩

/-- A reading **beside the functions** is blind. -/
@[grind ←] theorem reading {f : World → α} (hf : ∀ w fs, f (World.withFunctions w fs) = f w) :
    V.Blind (Run.reading f) := fun w w' alike => by
  rw [Run.outcome_reading, Run.outcome_reading, alike.reads hf]
  exact ⟨alike, .ok rfl⟩

/-- What goes on from a blind run with related ends. -/
theorem relates_bind {S : β → γ → Prop} {f : α → Run β} {g : α → Run γ} (hx : V.Blind x)
    (hf : ∀ a, V.Relates S (f a) (g a)) : V.Relates S (x >>= f) (x >>= g) :=
  Relates.bind hx fun a _ same => same ▸ hf a

/-- What goes on blindly from a blind run **is blind**. -/
@[grind ←] theorem bind (hx : V.Blind x) (hf : ∀ a, V.Blind (f a)) : V.Blind (x >>= f) :=
  hx.relates_bind hf

/-- What is made of what a blind run gives is given blindly. -/
@[grind ←] theorem map {f : α → β} (hx : V.Blind x) : V.Blind (f <$> x) :=
  Relates.map hx fun _ _ same => congrArg f same

/-- What is done with the world that was just read must **not look at the functions**. -/
@[grind ←] theorem get_bind {f : World → Run β} (hv : ∀ w fs, f (World.withFunctions w fs) = f w)
    (hf : ∀ w, V.Blind (f w)) : V.Blind (get >>= f) :=
  Relates.get_bind fun w _ alike => alike.reads hv ▸ hf w

/-- A blind handler leaves a blind run blind. -/
@[grind ←] theorem recover {handled : Error → Bool} {handler : Error → Run α} (hx : V.Blind x)
    (hh : ∀ e, handled e = true → V.Blind (handler e)) :
    V.Blind (Run.recover handled x handler) := Relates.recover hx hh

/-- A blind run is blind where its errors are values. -/
@[grind ←] theorem attempt (hx : V.Blind x) : V.Blind (Run.attempt x) :=
  recover hx.map fun _ _ => pure _

/-- A blind run is blind where a missing attribute is none. -/
@[grind ←] theorem optional (hx : V.Blind x) : V.Blind (Run.optional x) :=
  recover hx.map fun _ _ => pure _

/-- A choice between blind runs is blind. -/
@[grind ←] theorem elim {o : Option α} {y : Run β} (hy : V.Blind y)
    (hf : ∀ a, o = some a → V.Blind (f a)) : V.Blind (o.elim y f) := by
  cases o with
  | none => exact hy
  | some a => exact hf a rfl

/-- Blind runs **along a list** are blind. -/
@[grind ←] theorem mapM (hf : ∀ a, V.Blind (f a)) (l : List α) : V.Blind (l.mapM f) := by
  induction l with
  | nil => exact pure []
  | cons a rest ih =>
      rw [List.mapM_cons]
      exact (hf a).bind fun b => ih.bind fun bs => pure (b :: bs)

/-- Blind runs along a list that hand a value on are blind. -/
@[grind ←] theorem foldlM {g : β → α → Run β} (hg : ∀ b a, V.Blind (g b a)) (b : β) (l : List α) :
    V.Blind (l.foldlM g b) := by
  induction l generalizing b with
  | nil => exact pure b
  | cons a rest ih =>
      rw [List.foldlM_cons]
      exact (hg b a).bind ih

/-- Blind runs in a **loop** are blind. -/
@[grind ←] theorem forIn {g : α → β → Run (ForInStep β)} (hg : ∀ a b, V.Blind (g a b)) (l : List α)
    (b : β) : V.Blind (forIn l b g) := by
  induction l generalizing b with
  | nil =>
      rw [List.forIn_nil]
      exact pure b
  | cons a rest ih =>
      rw [List.forIn_cons]
      refine (hg a b).bind fun step => ?_
      cases step with
      | done b => exact pure b
      | yield b => exact ih b

/-- A change that is made alike under the veil. -/
theorem change {f : World → World} (h : ∀ w w', V.Alike w w' → V.Alike (f w) (f w')) :
    V.Blind (modify f : Run Unit) := fun w w' alike => ⟨h w w' alike, .ok rfl⟩

/-- A change **beside the functions** is made alike. -/
theorem change_beside {f : World → World}
    (apart : ∀ w fs, f (World.withFunctions w fs) = (f w).withFunctions fs)
    (same : ∀ w, (f w).functions = w.functions) (covered : ∀ w, V.covers w → V.covers (f w)) :
    V.Blind (modify f : Run Unit) :=
  change fun _ _ alike => alike.change_beside apart same covered

/-- A message that is made blindly is logged blindly. -/
@[grind ←] theorem logText {level : LogLevel} {message : Unit → Run String}
    (hm : V.Blind (message ())) : V.Blind (Run.logText level message) := by
  refine (reading fun _ _ => rfl).bind fun logs => ?_
  cases logs with
  | false => exact pure ()
  | true =>
      refine hm.attempt.bind fun text => ?_
      cases text with
      | error e => exact pure ()
      | ok text => exact tell level text

/-- A fixed message is logged blindly. -/
@[grind ←] theorem log (level : LogLevel) (message : String) : V.Blind (Run.log level message) :=
  logText (pure message)

/-- A blind run ends **in the same way** under the veil. -/
theorem outcome {w w' w₁ : World} (hx : V.Blind x) (alike : V.Alike w w') {o : Except Fault α}
    (h : x.outcome w = (o, w₁)) : ∃ w₁', x.outcome w' = (o, w₁') ∧ V.Alike w₁ w₁' := by
  obtain ⟨after, ends⟩ := hx w w' alike
  rw [h] at after ends
  exact ⟨(x.outcome w').2, Prod.ext ends.eq.symm rfl, after⟩

end Blind

end Veil

end OrderedScope
