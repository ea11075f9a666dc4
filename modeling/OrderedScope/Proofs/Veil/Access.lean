import OrderedScope.Lookup
import OrderedScope.Proofs.Follows.Access
import OrderedScope.Proofs.Tables
import OrderedScope.Proofs.Veil.Steps

/-!
# Access Under a Veil

Two accesses see a veil: one to the mark itself, and one to the table of a function, which shows the
mark among its entries. Both need a value whose attributes are those of a function. Every other
access is blind, and so is what is done with a table to find any other name in it.

## Main results

* `Attribute.blind_get`: access to a name is blind, apart from these two.
* `Attribute.seen_get`: access to a table gives tables that agree but for the mark.
* `Attribute.blind_held?`, `Attribute.blind_walk?`: so the entry that is held under a name, or found
  by a walk, is the same under the veil.
-/

namespace OrderedScope

variable {V : Veil} {run : Runner}

/-- A runner is **unaware** of a veil: it does every task in the same way without it
and under it. -/
def Veil.Unaware (V : Veil) (run : Runner) : Prop := ∀ t, V.Blind (run t)

@[grind ←] theorem blind_classNameOf (v : Value) : V.Blind (classNameOf v) := by
  unfold classNameOf
  grind

namespace Value

/-- The items of an object or a class are gone through blindly. -/
@[grind ←] theorem blind_itemsByClass (v : Value) : V.Blind (itemsByClass v) := by
  unfold itemsByClass
  grind

/-- The items of a value are gone through blindly. -/
@[grind ←] theorem blind_items (v : Value) : V.Blind (items v) := by
  unfold items
  grind

/-- A key is looked for blindly. -/
@[grind ←] theorem blind_hasKey (v : Value) (key : String) : V.Blind (hasKey v key) := by
  unfold hasKey
  grind

/-- The item of a key is taken blindly. -/
@[grind ←] theorem blind_itemAt (v : Value) (key : String) : V.Blind (itemAt v key) := by
  unfold itemAt
  grind

@[grind ←] theorem blind_joinTuple (v more : Value) : V.Blind (joinTuple v more) := by
  unfold joinTuple
  grind

/-- Whether plain data counts as true is found blindly. -/
@[grind ←] theorem blind_plainTruth (v : Value) : V.Blind (plainTruth v) := by
  unfold plainTruth
  grind

@[grind ←] theorem blind_truthOf (answer : Value) : V.Blind (truthOf answer) := by
  unfold truthOf
  grind

/-! ### Values that show a veil -/

/-- The **function behind** a value: the value itself, or the one that it binds. The attributes of
the function are those of the value. -/
def function? : Value → Option FunctionId
  | .fn i => some i
  | .bound (.fn i) _ => some i
  | _ => Option.none

/-- Access of a value to a name stands **apart** from the veil: there is no function behind the
value, or the name is neither the mark nor that of the table. -/
def Apart (v : Value) (name : String) : Prop :=
  v.function? = Option.none ∨ (name ≠ restrictedMark ∧ name ≠ "__dict__")

/-- A class stands apart from every mark. -/
theorem Apart.cls (c : ClassRef) (name : String) : Apart (.cls c) name := Or.inl rfl

/-- Any value stands apart under a name that is neither the mark nor the table. -/
theorem Apart.of_name {name : String} (mark : name ≠ restrictedMark) (table : name ≠ "__dict__")
    (v : Value) : Apart v name := Or.inr ⟨mark, table⟩

end Value

/-- Two values are **seen alike** through a value: they are the same, or they are the table of the
function behind it, which is marked in the second. -/
inductive Veil.Seen (V : Veil) (v : Value) : Value → Value → Prop
  | same (x : Value) : V.Seen v x x
  | table {i : FunctionId} {own own' : Members} : v.function? = some i → V.marks i = true →
      (∀ name, name ≠ restrictedMark → own'.find? name = own.find? name) →
      own'.find? restrictedMark = some (.bool true) → V.Seen v (.dict own) (.dict own')

namespace Veil

variable {v x y : Value} {name : String}

/-- What is seen alike **counts alike** as something or nothing. -/
theorem Seen.known (h : V.Seen v x y) : Option.Rel (V.Seen v) x.known? y.known? := by
  cases h with
  | same x =>
      rcases x.known? with _ | a
      · exact .none
      · exact .some (.same a)
  | table behind marked agree mark => exact .some (.table behind marked agree mark)

/-- Where no function is seen the same value **is seen**. -/
theorem Seen.eq (h : V.Seen v x y) (apart : v.function? = none) : y = x := by
  cases h with
  | same => rfl
  | table behind => cases apart.symm.trans behind

/-- What is given blindly is seen alike. -/
theorem Blind.seen {a : Run Value} (h : V.Blind a) : V.Relates (V.Seen v) a a :=
  Relates.imp h fun _ _ same => same ▸ .same _

/-- Tables that are seen alike hold **the same keys** but for the mark. -/
theorem Seen.hasKey (h : V.Seen v x y) (hn : name ≠ restrictedMark) :
    V.Relates Eq (x.hasKey name) (y.hasKey name) := by
  cases h with
  | same => exact Value.blind_hasKey x name
  | @table i own own' behind marked agree mark =>
      have same : own.has name = own'.has name := by
        have key := agree name hn
        rcases ho : own.find? name with _ | x <;> rw [ho] at key
        · rw [Members.find?_eq_none_iff.1 ho, Members.find?_eq_none_iff.1 key]
        · rw [World.has_of_find?_eq_some ho, World.has_of_find?_eq_some key]
      exact .pure same

/-- Tables that are seen alike hold **the same items** but for the mark. -/
theorem Seen.itemAt (h : V.Seen v x y) (hn : name ≠ restrictedMark) :
    V.Relates Eq (x.itemAt name) (y.itemAt name) := by
  cases h with
  | same => exact Value.blind_itemAt x name
  | @table i own own' behind marked agree mark =>
      simp only [Value.itemAt, agree name hn]
      split
      · exact Blind.pure _
      · exact Blind.raise _

end Veil

namespace Attribute

/-! ### Fields and members -/

/-- A field of a function other than its table is **the same** with the mark. -/
theorem ownFunctionField_marked {f f' : FunctionRec} (h : f.Marked f') (i : FunctionId)
    {name : String} (apart : name ≠ "__dict__") :
    ownFunctionField i f' name = ownFunctionField i f name := by
  have stored : functionField f'.name f'.home f'.attrs name =
      functionField f.name f.home f.attrs name := by
    rw [h.name_eq, h.home_eq]
    unfold functionField
    split <;> first | rfl | exact absurd rfl apart
  unfold ownFunctionField
  rw [h.captured_eq, stored]

/-- What a native field holds is **the same** under a veil, but for the table of a function. -/
theorem field?_alike {w w' : World} (alike : V.Alike w w') {name : String} {v : Value}
    (apart : (∀ i, v ≠ .fn i) ∨ name ≠ "__dict__") : field? w' name v = field? w name v := by
  have code (i : FunctionId) :
      ((w'.functions[i]?).map fun f => Value.tuple (f.captured.map fun e => .str e.1)) =
        (w.functions[i]?).map fun f => Value.tuple (f.captured.map fun e => .str e.1) := by
    simp only [Option.map_eq_bind]
    exact alike.function_bind i fun f f' key => by
      rw [Function.comp, Function.comp, key.captured_eq]
  have cell (i : FunctionId) (place : Nat) :
      ((w'.functions[i]?).bind fun f => (f.captured[place]?).bind (·.2)) =
        (w.functions[i]?).bind fun f => (f.captured[place]?).bind (·.2) :=
    alike.function_bind i fun f f' key => by rw [key.captured_eq]
  have functions (i : FunctionId) (h : name ≠ "__dict__") :
      ((w'.functions[i]?).bind (ownFunctionField i · name)) =
        (w.functions[i]?).bind (ownFunctionField i · name) :=
    alike.function_bind i fun f f' key => ownFunctionField_marked key i h
  have rest := alike.rest
  generalize w'.functions = fs at rest functions code cell
  subst rest
  unfold field?
  refine ite_congr rfl (fun _ => rfl) fun _ => ?_
  cases v with
  | fn i => exact functions i (apart.resolve_left fun h => h i rfl)
  | code i => exact code i
  | cell i place => exact cell i place
  | _ => rfl

/-- A native field is read **blindly**, but for the table of a function. -/
theorem blind_field (owner : ClassRef) {name : String} {v : Value}
    (apart : (∀ i, v ≠ .fn i) ∨ name ≠ "__dict__") : V.Blind (field owner name v) := by
  refine Veil.Relates.get_bind fun w w' alike => ?_
  have failure : fieldFailure w' owner name v = fieldFailure w owner name v :=
    alike.reads (f := (fieldFailure · owner name v)) fun w fs => by
      simp only [fieldFailure, World.withFunctions_fullName, World.withFunctions_classOf]
  have given : V.Blind ((field? w name v).elim (Run.raise (fieldFailure w owner name v)) pure) :=
    .elim (.raise _) fun a _ => .pure a
  rw [field?_alike alike apart, failure]
  exact given

/-- The field for the table of a function shows the mark, and **nothing else of the veil**. -/
theorem seen_field (owner : ClassRef) (i : FunctionId) :
    V.Relates (V.Seen (.fn i)) (field owner "__dict__" (.fn i))
      (field owner "__dict__" (.fn i)) := by
  refine Veil.Relates.get_bind fun w w' alike => ?_
  show V.Relates (V.Seen (.fn i))
    (((w.functions[i]?).bind fun f => functionField f.name f.home f.attrs "__dict__").elim
      (Run.raise (.noAttribute (w.fullName owner) "__dict__")) pure)
    (((w'.functions[i]?).bind fun f => functionField f.name f.home f.attrs "__dict__").elim
      (Run.raise (.noAttribute (w'.fullName owner) "__dict__")) pure)
  have named : w'.fullName owner = w.fullName owner :=
    alike.reads (f := (·.fullName owner)) fun w fs => w.withFunctions_fullName fs owner
  rw [named]
  cases hm : V.marks i with
  | false =>
      rw [alike.unmarked i hm]
      exact Veil.Blind.seen (.elim (.raise _) fun a _ => .pure a)
  | true =>
      rcases hf : w.functions[i]? with _ | f
      · rw [Array.getElem?_eq_none (alike.size ▸ Array.getElem?_eq_none_iff.1 hf)]
        exact .throw _
      · obtain ⟨f', hf', key⟩ := alike.marked i f hm hf
        rw [hf']
        exact .pure (.table rfl hm key.attrs_eq key.mark)

/-- The storage of a slot is read blindly. -/
@[grind ←] theorem blind_slotField (owner : Nat) (name : String) (v : Value) :
    V.Blind (slotField owner name v) := by
  unfold slotField
  grind

/-- A member is bound **blindly**, but for the field for the table of a function. -/
theorem blind_bind (unaware : V.Unaware run) {raw : Value} {inst : Option Value}
    (owner : ClassRef) (apart : (∀ i, inst ≠ some (.fn i)) ∨
      ∀ o k, raw ≠ .nativeMember o k "__dict__") : V.Blind (bind run raw inst owner) := by
  have computed (t : Task) : V.Blind (run t) := unaware t
  have given {o : ClassRef} {k : NativeKind} {name : String} {v : Value}
      (hr : raw = .nativeMember o k name) (hv : inst = some v) : V.Blind (field o name v) := by
    refine blind_field o ?_
    subst hr hv
    exact apart.imp (fun h i hi => h i (congrArg some hi)) fun h hn => h o k (hn ▸ rfl)
  unfold bind
  split <;> grind

/-- Whatever is bound is **seen alike** through the instance. -/
theorem seen_bind (unaware : V.Unaware run) (raw : Value) (v : Value) (owner : ClassRef) :
    V.Relates (V.Seen v) (bind run raw (some v) owner) (bind run raw (some v) owner) := by
  cases v with
  | fn i =>
      by_cases table : ∃ o k, raw = .nativeMember o k "__dict__"
      · obtain ⟨o, k, rfl⟩ := table
        cases k with
        | getset => exact seen_field o i
        | slot => exact seen_field o i
        | _ => exact Veil.Blind.seen (.pure _)
      · exact (blind_bind unaware owner (Or.inr fun o k h => table ⟨o, k, h⟩)).seen
  | _ => exact (blind_bind unaware owner (Or.inl (by simp))).seen

/-! ### Standard access -/

/-- A member that a native class holds by name alone has **the name** under which it is held. -/
theorem name_of_member? {c : NativeClass}
    (plain : ∀ e ∈ c.values, ∀ o k n, e.2 ≠ .nativeMember o k n)
    {name n : String} {o : ClassRef} {k : NativeKind}
    (h : c.member? name = some (.nativeMember o k n)) : n = name := by
  obtain value | ⟨k', same, -⟩ := NativeClass.member?_cases h
  · exact absurd rfl (plain (name, _) (Members.mem_of_find? value) o k n)
  · cases same
    rfl

/-- The member of functions under a name **has that name**, if it is a native one. -/
theorem name_of_functionMember {w : World} {name n : String} {o : ClassRef} {k : NativeKind}
    (h : w.typeMember? (.native .function) name = some (.nativeMember o k n)) : n = name := by
  rw [World.typeMember?_native] at h
  obtain ⟨c, hc, hm⟩ := List.exists_of_findSome?_eq_some h
  refine name_of_member? (fun e he o k n => ?_) hm
  have line : c = .function ∨ c = .object := by simpa [NativeClass.line, NativeClass.above] using hc
  rcases line with rfl | rfl <;> simp [NativeClass.values] at he
  rcases he with rfl | rfl <;> nofun

/-- A value with a function behind it is accessed **without hooks**. -/
theorem outcome_get_of_function {v : Value} {i : FunctionId} (h : v.function? = some i)
    (name : String) (w : World) :
    (get run v name).outcome w = (standardGet run v name).outcome w := by
  have tells {c : NativeClass} (hc : w.classOf v = .native c)
      (plain : c = .function ∨ c = .method) :
      (get run v name).outcome w = (standardGet run v name).outcome w := by
    have tells : w.TellsClass v :=
      tellsClass_of_native hc (by rcases plain with rfl | rfl <;> decide)
    exact outcome_get_of_unhooked tells.front tells.back
  cases v with
  | fn i => exact tells rfl (Or.inl rfl)
  | bound f self => exact tells rfl (Or.inr rfl)
  | _ => cases h

section Gets

variable (unaware : V.Unaware run)

include unaware

/-- Standard access is **blind**, but for the mark and the table of a function. -/
theorem blind_objectGet {v : Value} {name : String} (apart : (∀ i, v ≠ .fn i) ∨
    (name ≠ restrictedMark ∧ name ≠ "__dict__")) : V.Blind (objectGet run v name) := by
  refine Veil.Relates.get_bind fun w w' alike => ?_
  have own : (w'.ownAttrs? v).bind (·.find? name) = (w.ownAttrs? v).bind (·.find? name) := by
    rcases apart with none | ⟨mark, -⟩
    · rw [alike.rest, World.withFunctions_ownAttrs? w _ none]
    · exact alike.own_eq v mark
  have binds (raw : Value) (h : w.typeMember? (w.classOf v) name = some raw) :
      V.Blind (bind run raw (some v) (w.classOf v)) := by
    refine blind_bind unaware _ ?_
    rcases apart with none | ⟨-, table⟩
    · exact Or.inl fun i hi => none i (Option.some.inj hi)
    · cases v with
      | fn i =>
          right
          rintro o k rfl
          exact table (name_of_functionMember h).symm
      | _ => exact Or.inl (by simp)
  rw [own, alike.rest]
  simp only [World.withFunctions_classOf, World.withFunctions_typeMember?,
    World.withFunctions_controlsRead, World.withFunctions_controlsWrite,
    World.withFunctions_fullName]
  rcases hm : w.typeMember? (w.classOf v) name with _ | raw <;>
    rcases (w.ownAttrs? v).bind (·.find? name) with _ | x
  · exact Veil.Blind.raise _
  · exact Veil.Blind.pure _
  · exact binds raw hm
  · simp only
    split
    · exact binds raw hm
    · exact Veil.Blind.pure _

/-- The table of a value, taken as a plain object, is **seen alike** through it. -/
theorem seen_objectGet (v : Value) :
    V.Relates (V.Seen v) (objectGet run v "__dict__") (objectGet run v "__dict__") := by
  cases v with
  | fn i =>
      have field (w : World) : (objectGet run (.fn i) "__dict__").outcome w =
          (field (.native .function) "__dict__" (.fn i)).outcome w :=
        outcome_objectGet_native (o := .native .function) (k := .getset) (Or.inl rfl)
          (World.typeMember?_native ..)
      intro w w' alike
      rw [field w, field w']
      exact seen_field _ i w w' alike
  | _ => exact (blind_objectGet unaware (Or.inl (by simp))).seen

/-- A class is accessed **blindly**, whatever the name. -/
theorem blind_classGet (c : ClassRef) (name : String) : V.Blind (classGet run c name) := by
  have outside (raw : Value) (metaclass : ClassRef) :
      V.Blind (bind run raw (some (.cls c)) metaclass) :=
    blind_bind unaware _ (Or.inl (by simp))
  have inside (raw : Value) : V.Blind (bind run raw none c) :=
    blind_bind unaware _ (Or.inl (by simp))
  unfold classGet
  grind

/-- The standard access of a module is blind. -/
theorem blind_moduleGet (i : ModuleId) (name : String) :
    V.Blind (moduleGet run (.module i) name) := by
  have plain : V.Blind (objectGet run (.module i) name) :=
    blind_objectGet unaware (Or.inl (by simp))
  have hook (t : Task) : V.Blind (run t) := unaware t
  have members : V.Blind (Run.reading (·.ownAttrs? (.module i))) := .reading fun _ _ => rfl
  unfold moduleGet
  grind

/-- The standard access of a bound method is blind apart from the mark of its function. -/
theorem blind_methodGet (f self : Value) {name : String} (apart : (∀ i, f ≠ .fn i) ∨
    (name ≠ restrictedMark ∧ name ≠ "__dict__")) :
    V.Blind (methodGet run (.bound f self) f name) := by
  have plain : V.Blind (objectGet run f name) := blind_objectGet unaware apart
  have binds (raw : Value) : V.Blind (bind run raw (some (.bound f self)) (.native .method)) :=
    blind_bind unaware _ (Or.inl (by simp))
  unfold methodGet
  grind

/-- The **standard access** is blind apart from marks. -/
theorem blind_standardGet {v : Value} {name : String} (apart : v.Apart name) :
    V.Blind (standardGet run v name) := by
  cases v with
  | cls c => exact blind_classGet unaware c name
  | module i => exact blind_moduleGet unaware i name
  | bound f self =>
      refine blind_methodGet unaware f self (apart.imp_left fun none i hi => ?_)
      subst hi
      cases none
  | fn i => exact blind_objectGet unaware (Or.inr (apart.resolve_left nofun))
  | _ => exact blind_objectGet unaware (Or.inl (by simp))

/-- The table of a value is **seen alike** through it. -/
theorem seen_standardGet (v : Value) :
    V.Relates (V.Seen v) (standardGet run v "__dict__") (standardGet run v "__dict__") := by
  by_cases behind : v.function? = none
  · exact (blind_standardGet unaware (Or.inl behind)).seen
  cases v with
  | fn i => exact seen_objectGet unaware (.fn i)
  | bound f self =>
      cases f with
      | fn i =>
          have passed (w : World) : (standardGet run (.bound (.fn i) self) "__dict__").outcome w =
              (objectGet run (.fn i) "__dict__").outcome w := by
            rw [standardGet, methodGet, Run.outcome_bind_of_ok (Run.outcome_reading _ w),
              World.typeMember?_native]
            rfl
          intro w w' alike
          rw [passed w, passed w']
          obtain ⟨after, ends⟩ := seen_objectGet unaware (.fn i) w w' alike
          refine ⟨after, ends.imp fun x y seen => ?_⟩
          cases seen with
          | same x => exact .same x
          | table behind marked agree mark => exact .table behind marked agree mark
      | _ => exact absurd rfl behind
  | _ => exact absurd rfl behind

/-! ### Access with hooks -/

/-- A hook is called blindly. -/
theorem blind_callHook {hook v : Value} (args : List Value)
    (apart : (∀ i, v ≠ .fn i) ∨ ∀ o k, hook ≠ .nativeMember o k "__dict__") :
    V.Blind (callHook run hook v args) := by
  have task (t : Task) : V.Blind (run t) := unaware t
  have binds (c : ClassRef) : V.Blind (bind run hook (some v) c) :=
    blind_bind unaware c (apart.imp_left fun apart i h => apart i (Option.some.inj h))
  unfold callHook
  grind

omit unaware in
/-- A class has no say in an operation by **a member that every world has**. -/
theorem ownHook?_ne_nativeMember {w : World} {v hook : Value} {name : String}
    (h : w.ownHook? v name = some hook) (owner : ClassRef) (kind : NativeKind) (shown : String) :
    hook ≠ .nativeMember owner kind shown := by
  rintro rfl
  unfold World.ownHook? at h
  split at h
  · cases h
  · cases h
  · cases h
  · rename_i own _ _
    exact own owner kind shown (Option.some.inj h)

/-- A value is **asked** blindly. -/
@[grind ←] theorem blind_ask? (v : Value) (name : String) (args : List Value) :
    V.Blind (ask? run v name args) := by
  refine Veil.Relates.reading_bind (fun w fs => by simp) fun w covered => ?_
  rcases own : w.ownHook? v name with _ | hook
  · exact Veil.Blind.pure _
  · exact (blind_callHook unaware args (Or.inr fun o k =>
      ownHook?_ne_nativeMember own o k "__dict__")).map

/-- The number that a value stands for is **the same** under a veil: a function stands for none. -/
@[grind ←] theorem blind_numberOf (v : Value) : V.Blind (v.numberOf run) := by
  by_cases function : ∃ i, v = .fn i
  · obtain ⟨i, rfl⟩ := function
    have unindexed : (fun w : World => w.typeMember? (w.classOf (.fn i)) "__index__") =
        fun _ => none := by
      funext w
      rw [World.classOf, World.typeMember?_native]
      rfl
    have refused : (Value.fn i).numberOf run = (do
        Run.raise (.misuse .type (Text.encloseUpTo 200 (← classNameOf (.fn i))
          ++ " object cannot be interpreted as an integer"))) := by
      rw [Value.numberOf, unindexed]
      · rfl
      all_goals simp
    rw [refused]
    grind
  · have hooked (hook : Value) : V.Blind (callHook run hook v []) :=
      blind_callHook unaware _ (Or.inl (not_exists.1 function))
    unfold Value.numberOf
    grind

/-- What a length function gives is taken for a length blindly. -/
@[grind ←] theorem blind_lengthOf (answer : Value) : V.Blind (answer.lengthOf run) := by
  unfold Value.lengthOf
  grind

/-- Whether an object or a class counts as true is **the same** under a veil. -/
theorem blind_truthByClass {v : Value} (apart : ∀ i, v ≠ .fn i) : V.Blind (v.truthByClass run) := by
  have hooked (hook : Value) : V.Blind (callHook run hook v []) :=
    blind_callHook unaware _ (Or.inl apart)
  unfold Value.truthByClass
  grind

/-- Whether a value **counts as true** is found blindly. -/
@[grind ←] theorem blind_truthy (v : Value) : V.Blind (v.truthy run) := by
  cases v with
  | object i => exact blind_truthByClass unaware (by simp)
  | cls c => exact blind_truthByClass unaware (by simp)
  | _ => exact Value.blind_plainTruth _

/-- Access is **blind**, but for the mark and the table of a function. -/
theorem blind_get {v : Value} {name : String} (apart : v.Apart name) :
    V.Blind (get run v name) := by
  have standard : V.Blind (standardGet run v name) := blind_standardGet unaware apart
  rcases hi : v.function? with _ | i
  · have hooked (hook : Value) : V.Blind (callHook run hook v [.str name]) :=
      blind_callHook unaware _ (Or.inl fun i h => by cases h; cases hi)
    have front : V.Blind (frontGet run v name) := by
      unfold frontGet
      grind
    unfold get
    grind
  · intro w w' alike
    rw [outcome_get_of_function hi, outcome_get_of_function hi]
    exact standard w w' alike

/-- The table of a value is **seen alike** through it. -/
theorem seen_get (v : Value) :
    V.Relates (V.Seen v) (get run v "__dict__") (get run v "__dict__") := by
  rcases hi : v.function? with _ | i
  · exact (blind_get unaware (Or.inl hi)).seen
  · intro w w' alike
    rw [outcome_get_of_function hi, outcome_get_of_function hi]
    exact seen_standardGet unaware v w w' alike

/-- Access that may find nothing is blind apart from marks. -/
theorem blind_get? {v : Value} {name : String} (apart : v.Apart name) :
    V.Blind (get? run v name) := (blind_get unaware apart).optional

/-- Whether access finds an attribute is found blindly, apart from marks. -/
theorem blind_has {v : Value} {name : String} (apart : v.Apart name) :
    V.Blind (has run v name) := (blind_get? unaware apart).map

/-- Whether a value passes as an instance is found blindly. -/
@[grind ←] theorem blind_isInstance (v : Value) (c : ClassRef) : V.Blind (isInstance run v c) := by
  have told : V.Blind (get? run v "__class__") :=
    blind_get? unaware (.of_name (by decide) (by decide) v)
  unfold isInstance
  grind

/-! ### What a value holds -/

/-- The own attribute of an instance under another name than the mark is held **blindly**: of a
table it takes one entry. -/
theorem blind_heldByInstance? (v : Value) {name : String} (hn : name ≠ restrictedMark) :
    V.Blind (heldByInstance? run v name) := by
  refine .get_bind (fun w fs => by simp) fun w => ?_
  extract_lets readable
  clear_value readable
  split
  · refine Veil.Relates.bind (seen_objectGet unaware v).optional fun x y seen => ?_
    cases seen with
    | none => exact Veil.Blind.pure _
    | some seen =>
        cases seen with
        | same x =>
            change V.Blind _
            grind
        | table behind marked agree mark =>
            simp only [agree name hn]
            exact Veil.Blind.pure _
  · exact .pure _

/-- What a class holds itself is found blindly. -/
theorem blind_heldByClass? (c : ClassRef) (name : String) :
    V.Blind (heldByClass? run c name) := by
  have table : V.Blind (get run (.cls c) "__dict__") := blind_get unaware (.cls c _)
  unfold heldByClass?
  grind

/-- What a line of classes holds is found blindly. -/
theorem blind_heldAlong? (name : String) (line : List ClassRef) :
    V.Blind (heldAlong? run name line) := by
  have held (c : ClassRef) : V.Blind (heldByClass? run c name) := blind_heldByClass? unaware c name
  induction line <;> grind [heldAlong?]

/-- What a class or a class above it holds is found blindly. -/
theorem blind_heldInLine? (c : ClassRef) (name : String) : V.Blind (heldInLine? run c name) :=
  (Veil.Blind.reading fun _ _ => rfl).bind fun _ => blind_heldAlong? unaware name _

/-- What is **selected** for a value under another name than the mark is the same under a veil. -/
theorem blind_selected? (v : Value) {name : String} (hn : name ≠ restrictedMark) :
    V.Blind (selected? run v name) := by
  have line (c : ClassRef) (name : String) : V.Blind (heldInLine? run c name) :=
    blind_heldInLine? unaware c name
  have classOf (v : Value) : V.Blind (Run.reading (·.classOf v)) := .reading fun _ _ => by simp
  unfold selected?
  split
  · grind
  · refine (blind_heldByInstance? unaware v hn).bind fun own => (classOf v).bind fun c =>
      (line c name).bind fun member => ?_
    split <;> grind

/-- What a value **holds** under another name than the mark is the same under a veil. -/
theorem blind_held? (v : Value) {name : String} (hn : name ≠ restrictedMark) :
    V.Blind (held? run v name) :=
  (blind_selected? unaware v hn).map

/-- What a slot gives is **seen alike** through the value that it is read for. -/
theorem seen_readSlot (raw v : Value) :
    V.Relates (V.Seen v) (readSlot run raw v) (readSlot run raw v) := by
  refine Veil.Relates.get_bind fun w w' alike => ?_
  have classes : w'.classOf = w.classOf := alike.reads fun _ _ => by
    funext u
    simp
  rw [classes]
  split
  · exact seen_bind unaware raw v _
  · have reader : V.Blind (get run raw "__get__") :=
      blind_get unaware (.of_name (by decide) (by decide) raw)
    exact Veil.Blind.seen (reader.bind fun _ => unaware _)

/-- Whether a slot is empty is **the same** under a veil. -/
theorem blind_isEmptySlot (raw v : Value) : V.Blind (isEmptySlot run raw v) := by
  have kind : V.Blind (isInstance run raw (.native .slotMember)) := blind_isInstance unaware _ _
  have filled : V.Blind (do pure (Option.isNone (← Run.optional (readSlot run raw v)))) := by
    refine Veil.Relates.bind (seen_readSlot unaware raw v).optional fun x y seen => ?_
    cases seen <;> exact Veil.Blind.pure _
  unfold isEmptySlot
  grind

/-! ### Hooks -/

/-- Whether a line of tables gives a hook is found blindly. -/
theorem blind_hasPlainHook {hook : String} (hn : hook ≠ restrictedMark) (line : List Value) :
    V.Blind (hasPlainHook run hook line) := by
  induction line with
  | nil => exact .pure _
  | cons klass rest ih =>
      refine Veil.Relates.bind (seen_get unaware klass) fun table _ seen =>
        Veil.Relates.bind (seen.hasKey hn) fun has _ same => ?_
      subst same
      cases has with
      | false => exact ih
      | true =>
          exact Veil.Relates.bind (seen_get unaware klass) fun again _ seen =>
            Veil.Relates.bind (seen.itemAt hn) fun raw _ same =>
              same ▸ blind_isInstance unaware raw _

/-- Whether a class is given a hook is found blindly. -/
theorem blind_classHasPlainHook (c : ClassRef) {hook : String} (hn : hook ≠ restrictedMark) :
    V.Blind (classHasPlainHook run c hook) :=
  (blind_get unaware (.cls c _)).bind fun _ => (Value.blind_items _).bind fun _ =>
    blind_hasPlainHook unaware hn _

/-- Whether a name goes through hooks is found blindly. -/
theorem blind_overridesProtocol (v : Value) {name : String} (hn : name ≠ restrictedMark) :
    V.Blind (overridesProtocol run v name) := by
  have hook (c : ClassRef) (hook : String) (hh : hook ≠ restrictedMark) :
      V.Blind (classHasPlainHook run c hook) := blind_classHasPlainHook unaware c hh
  have front (c : ClassRef) := hook c "__getattribute__" (by decide)
  have back (c : ClassRef) := hook c "__getattr__" (by decide)
  have held : V.Blind (held? run v name) := blind_held? unaware v hn
  have classOf : V.Blind (Run.reading (·.classOf v)) := .reading fun _ _ => by simp
  unfold overridesProtocol
  grind

/-! ### The walk -/

/-- The tables behind a value are found blindly. -/
theorem blind_typeChain (v : Value) : V.Blind (typeChain run v) := by
  have line (v : Value) : V.Blind (get run v "__mro__") :=
    blind_get unaware (.of_name (by decide) (by decide) v)
  unfold typeChain
  grind

/-- The first entry along some tables is found blindly. -/
theorem blind_entryAlong? {name : String} (hn : name ≠ restrictedMark) (line : List Value) :
    V.Blind (entryAlong? run name line) := by
  induction line with
  | nil => exact .pure _
  | cons klass rest ih =>
      refine Veil.Relates.bind (seen_get unaware klass) fun table _ seen =>
        Veil.Relates.bind (seen.hasKey hn) fun has _ same => ?_
      subst same
      cases has with
      | false => exact ih
      | true => exact (seen.itemAt hn).map fun _ _ same => congrArg some same

/-- Whether an entry takes control is found blindly. -/
theorem blind_controlsBoth (raw : Value) : V.Blind (controlsBoth run raw) := by
  have has (c : ClassRef) (name : String) : V.Blind (has run (.cls c) name) :=
    blind_has unaware (.cls c name)
  unfold controlsBoth
  grind

/-- The own table of a value gives **the same entries** but for the mark. -/
theorem blind_ownTable? (v : Value) {name : String} (hn : name ≠ restrictedMark) :
    V.Relates (fun own own' => own'.bind (·.find? name) = own.bind (·.find? name))
      (ownTable? run v) (ownTable? run v) := by
  have found : V.Relates (Option.Rel (V.Seen v)) (some <$> objectGet run v "__dict__")
      (some <$> objectGet run v "__dict__") :=
    (seen_objectGet unaware v).map fun _ _ => .some
  refine (found.recover fun _ _ => .pure .none).bind fun x y seen => ?_
  cases seen with
  | none => exact .pure rfl
  | some seen =>
      cases seen with
      | table behind marked agree mark => exact .pure (agree name hn)
      | same x =>
          refine Veil.Relates.imp (?_ : V.Blind _) fun own own' same => same ▸ rfl
          have told (x : Value) : V.Blind (get run x "__class__") :=
            blind_get unaware (.of_name (by decide) (by decide) x)
          split <;> grind

/-- The entry of a walk where no member takes control is found blindly. -/
theorem blind_uncontrolled? (v : Value) {name : String} (hn : name ≠ restrictedMark)
    (member : Option Value) : V.Blind (uncontrolled? run v name member) := by
  refine Veil.Relates.bind (blind_ownTable? unaware v hn) fun own own' same => ?_
  rw [same]
  change V.Blind _
  grind

/-- The entry that a **walk** finds under another name than the mark is the same under a veil. -/
theorem blind_walk? (v : Value) {name : String} (hn : name ≠ restrictedMark) :
    V.Blind (walk? run v name) := by
  have controls (raw : Value) : V.Blind (controlsBoth run raw) := blind_controlsBoth unaware raw
  have uncontrolled (member : Option Value) : V.Blind (uncontrolled? run v name member) :=
    blind_uncontrolled? unaware v hn member
  refine (blind_typeChain unaware v).bind fun line =>
    (blind_entryAlong? unaware hn line).bind fun member => ?_
  rcases member.bind Value.known? with _ | raw <;> grind

/-- What the reader of an entry gives for an instance is **seen alike**, if what binding gives
is. -/
theorem seen_readEntry (raw v : Value) (inst : Option Value) (owner : World → ClassRef)
    (ho : ∀ w fs, owner (World.withFunctions w fs) = owner w)
    (hb : ∀ c, V.Relates (V.Seen v) (bind run raw inst c) (bind run raw inst c)) :
    let entry : Run Value := do
      let w ← MonadState.get
      match ← get? run (.cls (w.classOf raw)) "__get__" with
      | none => pure raw
      | some (.nativeMember _ .wrapper _) => bind run raw inst (owner w)
      | some reader => run (.call reader [raw, inst.getD .none, .cls (owner w)] [])
    V.Relates (V.Seen v) entry entry := by
  refine Veil.Relates.get_bind fun w w' alike => ?_
  have kind : w'.classOf raw = w.classOf raw :=
    alike.reads (f := (·.classOf raw)) fun w fs => w.withFunctions_classOf fs raw
  rw [kind, alike.reads ho]
  refine (blind_get? unaware (.cls (w.classOf raw) _)).relates_bind fun reader => ?_
  split
  · exact Veil.Blind.seen (.pure raw)
  · exact hb _
  · exact (unaware _).seen

/-- What is bound by hand is **seen alike** through the context. -/
theorem seen_bindEntry (raw v : Value) :
    V.Relates (V.Seen v) (bindEntry run raw v) (bindEntry run raw v) := by
  cases v with
  | cls c =>
      exact seen_readEntry unaware raw _ none (fun _ => c) (fun _ _ => rfl) fun c =>
        (blind_bind unaware c (Or.inl (by simp))).seen
  | _ =>
      exact seen_readEntry unaware raw _ (some _) (·.classOf _)
        (fun w fs => w.withFunctions_classOf fs _) fun c => seen_bind unaware raw _ c

end Gets

end Attribute

/-! ### Texts and hashes -/

namespace Value

@[grind ←] theorem blind_contentOf (text : Value) : V.Blind (contentOf text) := by
  unfold contentOf
  grind

@[grind ←] theorem blind_textOf (source : String) (answer : Value) :
    V.Blind (textOf source answer) := by
  unfold textOf
  grind

@[grind ←] theorem blind_joinTexts (place : Nat) (texts : List Value) :
    V.Blind (joinTexts place texts) := by
  induction texts generalizing place <;> grind [joinTexts]

@[grind ←] theorem blind_formattedOf (answer : Value) : V.Blind (formattedOf answer) := by
  unfold formattedOf
  grind

@[grind ←] theorem blind_hashGiven (platform : Platform) (answer : Value) :
    V.Blind (hashGiven platform answer) := by
  unfold hashGiven
  grind

section Wording

variable (unaware : V.Unaware run)

include unaware

/-- The letters of a direction are joined blindly. -/
@[grind ←] theorem blind_letters (entries : List Value) : V.Blind (letters run entries) := by
  have letter (v : Value) : V.Blind (Attribute.get run v "letter") :=
    Attribute.blind_get unaware (.of_name (by decide) (by decide) v)
  unfold letters
  grind

/-- The name of what was accepted as a direction is made blindly. -/
@[grind ←] theorem blind_directionName (v : Value) : V.Blind (directionName run v) := by
  have letters (entries : List Value) : V.Blind (letters run entries) :=
    blind_letters unaware entries
  cases v <;> grind [directionName]

/-- The plain text of a value is made blindly. -/
@[grind ←] theorem blind_plainText (v : Value) : V.Blind (plainText run v) := by
  have task (t : Task) : V.Blind (run t) := unaware t
  unfold plainText
  split <;> grind

/-- The formatted text of a value is made blindly. -/
@[grind ←] theorem blind_formatted (v : Value) : V.Blind (formatted run v) := by
  unfold formatted
  split <;> grind

/-- A value is put into words blindly. -/
@[grind ←] theorem blind_quotedText (v : Value) : V.Blind (quotedText run v) :=
  (unaware _).bind (blind_formatted unaware)

/-- The hash that a class leaves to the platform is found blindly. -/
theorem blind_standardHash (v : Value) : V.Blind (standardHash run v) := by
  have task (t : Task) : V.Blind (run t) := unaware t
  refine .get_bind (fun w fs => by simp) fun w => ?_
  grind

/-- The hash of a value is found blindly. -/
@[grind ←] theorem blind_hashOf (v : Value) : V.Blind (hashOf run v) := by
  refine Veil.Blind.bind (.reading fun w fs => by simp) fun hook => ?_
  split
  · grind
  · refine (Attribute.blind_ask? unaware v _ _).bind fun answer => ?_
    cases answer with
    | none => exact blind_standardHash unaware v
    | some answer => exact Veil.Blind.bind (.reading fun _ _ => rfl) fun _ => by grind

end Wording

end Value

/-- The text of an error is **the same** under a veil. -/
@[grind ←] theorem Error.blind_text (unaware : V.Unaware run) (e : Error) :
    V.Blind (e.text run) := by
  cases e with
  | noItem key => exact (unaware _).bind fun text => text.blind_contentOf
  | _ => exact .pure _

end OrderedScope
