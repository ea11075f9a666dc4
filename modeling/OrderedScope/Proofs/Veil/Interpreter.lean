import OrderedScope.Proofs.Follows.Session
import OrderedScope.Proofs.Veil.Heedless

/-!
# The Interpreter Under a Veil

In a heedless world the interpreter does every task in the same way under a veil, whatever the
budget: each function of the library is blind if its runner is unaware, and by induction on the
budget the runner is.

## Main results

* `Interpreter.unaware_runner`: the runner of every budget is unaware of a veil over heedless
  worlds.
-/

namespace OrderedScope

section Library

variable {V : Veil} {run : Runner} (unaware : V.Unaware run)

/-! ### Functions of the kernel module -/

namespace Value

/-- A sum is made blindly. -/
@[grind ←] theorem blind_add (v more : Value) : V.Blind (add v more) := by
  unfold add
  grind

end Value

include unaware

namespace Reference

/-- A module is found by its path blindly. -/
theorem blind_moduleOf (names : List String) : V.Blind (moduleOf run names) := by
  have path (v : Value) : V.Blind (Attribute.get? run v "__path__") :=
    Attribute.blind_get? unaware (.of_name (by decide) (by decide) v)
  induction names with
  | nil => exact .raise _
  | cons part above ih =>
    refine Veil.Blind.bind (.reading fun _ _ => rfl) fun found => ?_
    cases found with
    | some i => exact .pure _
    | none =>
      simp only
      split
      · exact .raise _
      · exact ih.bind fun parent => (path parent).bind fun places => by split <;> grind

/-- A module is found by its dotted name blindly. -/
theorem blind_moduleNamed (name : String) : V.Blind (moduleNamed run name) := by
  have named (names : List String) : V.Blind (moduleOf run names) := blind_moduleOf unaware names
  unfold moduleNamed
  grind

end Reference

namespace Kernel

/-- The length of a value is asked for blindly. -/
theorem blind_length (v : Value) : V.Blind (length run v) := by
  refine Veil.Blind.bind (.reading fun _ _ => by simp) fun member => ?_
  split
  · grind
  · grind
  · rename_i hook function
    refine (Attribute.blind_callHook unaware _ (Or.inr fun o k => function o k _)).bind fun n => ?_
    exact (Attribute.blind_lengthOf unaware n).bind fun _ => .pure _

omit unaware

@[grind ←] theorem blind_absolute (v : Value) : V.Blind (absolute v) := by
  unfold absolute
  grind

@[grind ←] theorem blind_incomparable {α : Type} (operator : String) (v w : Value) :
    V.Blind (incomparable operator v w : Run α) := by
  unfold incomparable
  grind

@[grind ←] theorem blind_greater (v w : Value) : V.Blind (greater v w) := by
  unfold greater
  grind

@[grind ←] theorem blind_maximum (vs : List Value) : V.Blind (maximum vs) := by
  unfold maximum
  grind

@[grind ←] theorem blind_insertSorted (v : Value) (rest : List Value) :
    V.Blind (insertSorted v rest) := by
  induction rest <;> grind [insertSorted]

@[grind ←] theorem blind_sorted (vs : List Value) : V.Blind (sorted vs) := by
  unfold sorted
  grind

include unaware

/-- A module is imported blindly. -/
theorem blind_importNamed (name : String) : V.Blind (importNamed run name) := by
  have named (name : String) : V.Blind (Reference.moduleNamed run name) :=
    Reference.blind_moduleNamed unaware name
  unfold importNamed
  grind

/-- A function of the kernel module is **blind**. -/
theorem blind_call (name : String) (args : List Value) : V.Blind (call run name args) := by
  have length (v : Value) : V.Blind (length run v) := blind_length unaware v
  have task (t : Task) : V.Blind (run t) := unaware t
  have named (name : String) : V.Blind (importNamed run name) := blind_importNamed unaware name
  unfold call
  grind

end Kernel

/-! ### Texts -/

namespace Label

/-- The text of a part is made blindly. -/
@[grind ←] theorem blind_part (active : List ObjectId) (v : Value) :
    V.Blind (part run active v) :=
  (unaware _).bind fun text => text.blind_contentOf

@[grind ←] theorem blind_parts (active : List ObjectId) (vs : List Value) :
    V.Blind (parts run active vs) := .mapM (blind_part unaware active) vs

/-- The text of a part stands in a message blindly. -/
@[grind ←] theorem blind_quotedPart (active : List ObjectId) (v : Value) :
    V.Blind (quotedPart run active v) := (unaware _).bind (Value.blind_formatted unaware)

@[grind ←] theorem blind_tupleText (active : List ObjectId) (items : List Value) :
    V.Blind (tupleText run active items) := by
  unfold tupleText
  grind

@[grind ←] theorem blind_fields (active : List ObjectId) (key : String → String)
    (entries : Members) : V.Blind (fields run active key entries) := by
  unfold fields
  grind

/-- The text of what an object holds is made blindly. -/
@[grind ←] theorem blind_heldText (active : List ObjectId) (v : Value) :
    V.Blind (heldText run active v) := by
  refine .get_bind (fun w fs => by simp [anonymous]) fun w => ?_
  split <;> grind

/-- The standard text of a value is made blindly. -/
theorem blind_standardText (active : List ObjectId) (v : Value) :
    V.Blind (standardText run active v) := by
  have told (v : Value) : V.Blind (Attribute.get run v "fn") :=
    Attribute.blind_get unaware (.of_name (by decide) (by decide) v)
  have named (v : Value) : V.Blind (Value.directionName run v) :=
    Value.blind_directionName unaware v
  refine Veil.Relates.get_bind fun w w' alike => ?_
  have names : ∀ i, w'.functionName i = w.functionName i := alike.functionName
  have bound (f : Value) : boundName w' f = boundName w f := by
    cases f with
    | fn i => exact names i
    | cls c => exact alike.reads (f := (·.className c)) fun _ _ => rfl
    | _ => rfl
  have rest := alike.rest
  generalize w'.functions = fs at rest
  subst rest
  have anonymous (v : Value) : anonymous (w.withFunctions fs) v = anonymous w v := by
    simp [anonymous]
  have nativeText (o : ClassRef) (k : NativeKind) (name : String) :
      nativeText (w.withFunctions fs) o k name = nativeText w o k name := by
    simp [nativeText]
  have classText (c : ClassRef) : classText (w.withFunctions fs) c = classText w c := rfl
  have moduleText (i : ModuleId) : moduleText (w.withFunctions fs) i = moduleText w i := rfl
  simp only [names, bound, anonymous, nativeText, classText, moduleText,
    World.withFunctions_growing, World.withFunctions_classOf, World.withFunctions_className,
    World.withFunctions_resolvers, World.withFunctions_capsules, World.withFunctions_objects]
  change V.Blind _
  split <;> grind

/-- The **text** of a value is made blindly. -/
theorem blind_text (active : List ObjectId) (v : Value) : V.Blind (text run active v) := by
  have standard : V.Blind (standardText run active v) := blind_standardText unaware active v
  unfold text
  grind

end Label

end Library

section Heedless

variable {marks : FunctionId → Bool} {run : Runner} (unaware : (Veil.heedless marks).Unaware run)

/-! ### Expressions -/

/-- A function with a heedless body is made blindly. -/
theorem blind_newBody (label : String) {b : Body} (hb : b.heedless = true) (attrs : Members) :
    (Veil.heedless marks).Blind (newBody label b attrs) :=
  (blind_newFunction (f := ⟨label, some worldHome, .body label b, [], attrs⟩) hb).map

/-- What must be there is taken blindly. -/
@[grind ←] theorem blind_required (key : String) (found : Option Value) :
    (Veil.heedless marks).Blind (required key found) := by
  unfold required
  grind

namespace Expr

mutual

/-- A heedless expression is evaluated **blindly**. -/
theorem blind_eval : ∀ e : Expr, e.heedless = true → (Veil.heedless marks).Blind (eval e)
  | .list items, h => (blind_evalList items h).map
  | .tuple items, h => (blind_evalList items h).map
  | .dict entries, h => (blind_evalEntries entries h).map
  | .none, _ => .pure _
  | .bool b, _ => .pure _
  | .int n, _ => .pure _
  | .float x, _ => .pure _
  | .str s, _ => .pure _
  | .bytes s, _ => .pure _
  | .range n, _ => .pure _
  | .group g, _ => .pure _
  | .direction groups, _ => .pure _
  | .object id, _ => (Veil.Blind.reading fun _ _ => rfl).bind fun _ => blind_required _ _
  | .cls name, _ => (Veil.Blind.reading fun _ _ => rfl).bind fun _ => blind_required _ _
  | .module name, _ => (Veil.Blind.reading fun _ _ => rfl).bind fun _ => blind_required _ _
  | .function label body restricted, h => blind_newBody label h _
  | .ambientScope, _ =>
      (Veil.Blind.reading fun _ _ => rfl).bind fun found => by cases found <;> grind
  | .keptScope key, _ => (Veil.Blind.reading fun _ _ => rfl).bind fun _ => blind_required _ _
  | .closure id, _ => (Veil.Blind.reading fun _ _ => rfl).bind fun _ => blind_required _ _
  | .handle id, _ => (Veil.Blind.reading fun _ _ => rfl).bind fun _ => blind_required _ _

theorem blind_evalList : ∀ items : List Expr, heedlessList items = true →
    (Veil.heedless marks).Blind (evalList items)
  | [], _ => .pure []
  | e :: rest, h =>
      have both := Bool.and_eq_true_iff.1 h
      (blind_eval e both.1).bind fun v =>
        (blind_evalList rest both.2).bind fun vs => .pure (v :: vs)

theorem blind_evalEntries : ∀ entries : List (String × Expr), heedlessEntries entries = true →
    (Veil.heedless marks).Blind (evalEntries entries)
  | [], _ => .pure []
  | (name, e) :: rest, h =>
      have both := Bool.and_eq_true_iff.1 h
      (blind_eval e both.1).bind fun v => (blind_evalEntries rest both.2).bind fun vs =>
        .pure ((name, v) :: vs)

end

end Expr

include unaware

/-! ### Setting attributes -/

namespace Attribute

/-- A member that takes control of writing is written through blindly. -/
theorem blind_updateMember (raw v x : Value) :
    (Veil.heedless marks).Blind (updateMember run raw v (some x)) := by
  have slot (owner : Nat) (name : String) :
      (Veil.heedless marks).Blind (updateSlot owner name v (some x)) := by
    refine .get_bind (fun _ _ => rfl) fun w => ?_
    cases v with
    | object i =>
      exact blind_changeObject (i := i)
        (g := fun o => { o with
          slots := ((owner, name), x) :: o.slots.filter (·.1 != (owner, name)) })
        (fun _ => rfl) fun _ => rfl
    | _ => exact .raise _
  have task (t : Task) : (Veil.heedless marks).Blind (run t) := unaware t
  refine .get_bind (fun w fs => by simp) fun w => ?_
  split <;> grind

/-- An attribute of another name than the mark is written blindly. -/
theorem blind_objectUpdate {name : String} (hn : name ≠ restrictedMark) (v x : Value) :
    (Veil.heedless marks).Blind (objectUpdate run v name (some x)) := by
  have put : (Veil.heedless marks).Blind (modify (·.mapAttrs v (·.put name x)) : Run Unit) :=
    blind_put hn v x
  have member (raw : Value) : (Veil.heedless marks).Blind (updateMember run raw v (some x)) :=
    blind_updateMember unaware raw v x
  refine Veil.Relates.get_bind fun w w' alike => ?_
  have own : (w'.ownAttrs? v).isSome = (w.ownAttrs? v).isSome := alike.own_isSome v
  have rest := alike.rest
  generalize w'.functions = fs at rest
  subst rest
  simp only [World.withFunctions_classOf, World.withFunctions_typeMember?,
    World.withFunctions_controlsWrite, World.withFunctions_fullName]
  rcases h : w.ownAttrs? v with _ | table <;>
    rcases h' : (w.withFunctions fs).ownAttrs? v with _ | table' <;> rw [h, h'] at own
  · change (Veil.heedless marks).Blind _
    grind
  · cases own
  · cases own
  · change (Veil.heedless marks).Blind _
    grind

/-- A member of another name than the mark is written blindly. -/
theorem blind_classUpdate {name : String} (hn : name ≠ restrictedMark) (c : ClassRef) (x : Value) :
    (Veil.heedless marks).Blind (classUpdate run c name (some x)) := by
  have put : (Veil.heedless marks).Blind (modify (·.mapAttrs (.cls c) (·.put name x)) : Run Unit) :=
    blind_put hn (.cls c) x
  have member (raw : Value) :
      (Veil.heedless marks).Blind (updateMember run raw (.cls c) (some x)) :=
    blind_updateMember unaware raw (.cls c) x
  refine .get_bind (fun w fs => by simp) fun w => ?_
  cases c with
  | native n => exact .raise _
  | world i => grind

/-- An attribute is **set** blindly under another name than the mark. -/
theorem blind_set {name : String} (hn : name ≠ restrictedMark) (v x : Value) :
    (Veil.heedless marks).Blind (set run v name x) := by
  have object : (Veil.heedless marks).Blind (objectUpdate run v name (some x)) :=
    blind_objectUpdate unaware hn v x
  have cls (c : ClassRef) : (Veil.heedless marks).Blind (classUpdate run c name (some x)) :=
    blind_classUpdate unaware hn c x
  refine Veil.Blind.bind (.reading fun _ _ => by simp) fun hook => ?_
  split
  · exact cls _
  · exact cls _
  · exact object
  · exact object
  · rename_i function _
    exact (blind_callHook unaware _ (Or.inr fun o k => function o k _)).bind fun _ => .pure _

end Attribute

/-! ### Closures -/

namespace Closure

omit unaware in
/-- A namespace without fields is made blindly. -/
theorem blind_emptyNamespace : (Veil.heedless marks).Blind emptyNamespace := blind_newObject rfl

theorem blind_moduleOf? (fn : Value) : (Veil.heedless marks).Blind (moduleOf? run fn) := by
  have named : (Veil.heedless marks).Blind (Attribute.get? run fn "__module__") :=
    Attribute.blind_get? unaware (.of_name (by decide) (by decide) fn)
  unfold moduleOf?
  grind

omit unaware in
theorem withFunctions_partialOf? (w : World) (fs : Array FunctionRec) (v : Value) :
    partialOf? (w.withFunctions fs) v = partialOf? w v := by
  cases v with
  | object i => simp only [partialOf?, World.withFunctions_payload?]
  | _ => rfl

omit unaware in
/-- The layers of partial calls do not depend on the functions. -/
theorem withFunctions_unwrapPartial? (w : World) (fs : Array FunctionRec) (steps : Nat)
    (v : Value) : unwrapPartial? (w.withFunctions fs) steps v = unwrapPartial? w steps v := by
  induction steps generalizing v with
  | zero => simp only [unwrapPartial?, withFunctions_partialOf?]
  | succ steps ih => simp only [unwrapPartial?, withFunctions_partialOf?, funext ih]

/-- What a closure calls is found blindly. -/
theorem blind_callee (given : Value) : (Veil.heedless marks).Blind (callee run given) := by
  have kind (v : Value) (c : ClassRef) :
      (Veil.heedless marks).Blind (Attribute.isInstance run v c) :=
    Attribute.blind_isInstance unaware v c
  have inner (fn : Value) : (Veil.heedless marks).Blind (Attribute.get run fn "func") :=
    Attribute.blind_get unaware (.of_name (by decide) (by decide) fn)
  refine .get_bind (fun w fs => by simp only [withFunctions_unwrapPartial?]; rfl) fun w => ?_
  split <;> grind

/-- The receiver of a function is found blindly. -/
theorem blind_receiver? (fn : Value) : (Veil.heedless marks).Blind (receiver? run fn) := by
  have self : (Veil.heedless marks).Blind (Attribute.get? run fn "__self__") :=
    Attribute.blind_get? unaware (.of_name (by decide) (by decide) fn)
  have kind (v : Value) (c : ClassRef) :
      (Veil.heedless marks).Blind (Attribute.isInstance run v c) :=
    Attribute.blind_isInstance unaware v c
  unfold receiver?
  grind

/-- The captured `self` is found among the cells blindly. -/
theorem blind_pairedSelf? (code cells : Value) :
    (Veil.heedless marks).Blind (pairedSelf? run code cells) := by
  have names : (Veil.heedless marks).Blind (Attribute.get run code "co_freevars") :=
    Attribute.blind_get unaware (.of_name (by decide) (by decide) code)
  have content (cell : Value) :
      (Veil.heedless marks).Blind (Attribute.get run cell "cell_contents") :=
    Attribute.blind_get unaware (.of_name (by decide) (by decide) cell)
  unfold pairedSelf?
  grind

/-- The `self` that a function captures is found blindly. -/
theorem blind_capturedSelf? (fn : Value) : (Veil.heedless marks).Blind (capturedSelf? run fn) := by
  have code : (Veil.heedless marks).Blind (Attribute.get? run fn "__code__") :=
    Attribute.blind_get? unaware (.of_name (by decide) (by decide) fn)
  have cells : (Veil.heedless marks).Blind (Attribute.get? run fn "__closure__") :=
    Attribute.blind_get? unaware (.of_name (by decide) (by decide) fn)
  have paired (code cells : Value) : (Veil.heedless marks).Blind (pairedSelf? run code cells) :=
    blind_pairedSelf? unaware code cells
  have filled (v : Value) : (Veil.heedless marks).Blind (v.truthy run) :=
    Attribute.blind_truthy unaware v
  unfold capturedSelf?
  grind

/-- An outer context is **inferred** blindly. -/
theorem blind_inferOuter (given : Value) : (Veil.heedless marks).Blind (inferOuter run given) := by
  have space : (Veil.heedless marks).Blind emptyNamespace := blind_emptyNamespace
  refine (blind_callee unaware given).bind fun fn =>
    (blind_receiver? unaware fn).bind fun receiver => ?_
  cases receiver with
  | some receiver => exact .pure _
  | none =>
    refine (blind_capturedSelf? unaware fn).bind fun content => ?_
    cases content with
    | some content => exact .pure _
    | none => exact (blind_moduleOf? unaware fn).bind fun home => by cases home <;> grind

/-- A closure is made blindly. -/
theorem blind_make (fn : Value) (outer : Option Value) :
    (Veil.heedless marks).Blind (make run fn outer) := by
  have infers (fn : Value) : (Veil.heedless marks).Blind (inferOuter run fn) :=
    blind_inferOuter unaware fn
  have named (c : ClassRef) : (Veil.heedless marks).Blind (Attribute.get run (.cls c) "__name__") :=
    Attribute.blind_get unaware (.cls c _)
  have plain (v : Value) : (Veil.heedless marks).Blind (v.plainText run) :=
    Value.blind_plainText unaware v
  unfold make
  grind

/-- A value is wrapped blindly. -/
theorem blind_wrap (v : Value) : (Veil.heedless marks).Blind (wrap run v) := by
  have made (v : Value) : (Veil.heedless marks).Blind (make run v none) := blind_make unaware v none
  have kind (v : Value) (c : ClassRef) :
      (Veil.heedless marks).Blind (Attribute.isInstance run v c) :=
    Attribute.blind_isInstance unaware v c
  have parts (w : World) (fs : Array FunctionRec) (v : Value) :
      parts? (w.withFunctions fs) v = parts? w v := by
    cases v <;> rfl
  unfold wrap
  grind

omit unaware in
/-- A closure that is kept is made a value **blindly**. -/
theorem blind_toValue (c : KeptClosure) : (Veil.heedless marks).Blind c.toValue := by
  cases c with
  | parts c => exact blind_newObject rfl
  | telling v => exact .pure v

end Closure

/-! ### Code -/

namespace Interpreter

omit unaware in
@[grind ←] theorem blind_firstArg {V : Veil} (args : List Value) : V.Blind (firstArg args) := by
  unfold firstArg
  grind

/-- A heedless body is run **blindly**. -/
theorem blind_runBody (label : String) {b : Body} (hb : b.heedless = true) (args : List Value)
    (named : Members) : (Veil.heedless marks).Blind (runBody run label b args named) := by
  cases b with
  | ret e => exact Expr.blind_eval e hb
  | echo => exact .pure _
  | raise kind text => exact .raise _
  | incr name =>
    have hn : name ≠ restrictedMark := by
      simp only [Body.heedless, isHeedlessName, Bool.and_eq_true, bne_iff_ne] at hb
      exact hb.1
    exact (blind_firstArg args).bind fun v =>
      (Attribute.blind_get unaware (.of_heedless hb v)).bind fun x =>
        (Value.blind_add x _).bind fun sum =>
          (Attribute.blind_set unaware hn v sum).bind fun _ => .pure _
  | self name =>
    exact (blind_firstArg args).bind fun v => Attribute.blind_get unaware (.of_heedless hb v)
  | ambient name =>
    exact (Expr.blind_eval .ambientScope (by rw [Expr.heedless])).bind fun v =>
      Attribute.blind_get unaware (.of_heedless hb v)
  | makeFunction label b =>
    rw [Body.heedless] at hb
    exact blind_newBody label hb _

omit unaware in
/-- What a heedless hook does otherwise is done blindly. -/
theorem blind_runOtherwise (name : String) {o : Otherwise} (ho : o.heedless = true) :
    (Veil.heedless marks).Blind (runOtherwise name o) := by
  cases o with
  | raise kind text => exact .raise _
  | ret e => exact Expr.blind_eval e ho
  | name => exact .pure _

/-- A hook gives its answer, lets the standard access through, or ends **otherwise**. -/
theorem blind_hookAnswer (name : String) {h : Hook} (hh : h.heedless = true) (args : List Value) :
    (Veil.heedless marks).Blind
      (match h.answers.lookup name, h.allow.contains name, args with
        | some e, _, _ => e.eval
        | none, true, v :: _ :: _ => Attribute.standardGet run v name
        | none, _, _ => runOtherwise name h.otherwise) := by
  simp only [Hook.heedless, Bool.and_eq_true, List.all_eq_true] at hh
  obtain ⟨⟨answers, allow⟩, otherwise⟩ := hh
  rcases found : h.answers.lookup name with _ | e
  · cases allowed : h.allow.contains name with
    | false => exact blind_runOtherwise name otherwise
    | true =>
      have heedless := allow name (List.contains_iff_mem.1 allowed)
      rcases args with _ | ⟨v, _ | ⟨_, _⟩⟩
      · exact blind_runOtherwise name otherwise
      · exact blind_runOtherwise name otherwise
      · exact Attribute.blind_standardGet unaware (Value.Apart.of_heedless heedless v)
  · obtain ⟨l₁, l₂, hl, -⟩ := List.lookup_eq_some_iff.1 found
    exact Expr.blind_eval e (answers (name, e) (by rw [hl]; simp))

/-- A heedless hook is called blindly. -/
theorem blind_callHook (label : String) {h : Hook} (hh : h.heedless = true) (args : List Value) :
    (Veil.heedless marks).Blind (callHook run label h args) := by
  unfold callHook
  split
  · rename_i name _
    have rest := blind_hookAnswer unaware name hh args
    grind
  · exact .raise _

/-! ### Objects that code is called through -/

omit unaware

/-- What an object of a heedless world is beside its attributes is heedless. -/
theorem heedless_payload {w : World} (h : w.Heedless) {i : ObjectId} {p : Payload}
    (hp : w.payload? i = some p) : p.heedless = true := by
  obtain ⟨o, ho, rfl⟩ := Option.map_eq_some_iff.1 hp
  exact h.objects o (Array.mem_of_getElem? ho)

/-- There is **no scope** in a heedless world. -/
theorem relates_scopeResolver (v : Value) :
    (Veil.heedless marks).Relates (fun _ _ => False) (scopeResolver v) (scopeResolver v) := by
  cases v with
  | object i =>
    refine .reading_bind (fun _ _ => rfl) fun w covered => ?_
    split
    · rename_i r hp
      cases heedless_payload covered.2 hp
    · exact .throw _
  | _ => exact .throw _

/-- Nor a capsule. -/
theorem relates_capsuleAt (i : CapsuleId) :
    (Veil.heedless marks).Relates (fun _ _ => False) (capsuleAt i) (capsuleAt i) :=
  .reading_bind (fun _ _ => rfl) fun w covered => by
    rw [covered.2.capsules]
    exact .throw _

/-- And the reader of a descriptor is heedless. -/
theorem relates_descriptorParts (v : Value) :
    (Veil.heedless marks).Relates (fun x y => y = x ∧ ∀ b, x.2 = some b → b.heedless = true)
      (descriptorParts v) (descriptorParts v) := by
  cases v with
  | object i =>
    refine .reading_bind (fun _ _ => rfl) fun w covered => ?_
    split
    · rename_i label reader hp
      have heedless := heedless_payload covered.2 hp
      refine .pure ⟨rfl, ?_⟩
      rintro b rfl
      exact heedless
    · exact .throw _
  | _ => exact .throw _

include unaware

/-! ### Calls -/

omit unaware in
@[grind ←] theorem blind_tableItem {V : Veil} (entries : Members) (key : Value) :
    V.Blind (tableItem entries key) := by
  unfold tableItem
  grind

/-- A function of the library is **blind**. -/
theorem blind_callLibrary (f : LibraryFunction) (args : List Value) (named : Members) :
    (Veil.heedless marks).Blind (callLibrary run f args named) := by
  have text (v : Value) : (Veil.heedless marks).Blind (Label.standardText run [] v) :=
    Label.blind_standardText unaware [] v
  have parts (w : World) (fs : Array FunctionRec) (v : Value) :
      Closure.parts? (w.withFunctions fs) v = Closure.parts? w v := by
    cases v <;> rfl
  have task (t : Task) : (Veil.heedless marks).Blind (run t) := unaware t
  unfold callLibrary
  split
  · exact (relates_scopeResolver _).bind fun _ _ no => no.elim
  · exact .raise _
  · exact .raise _
  · exact (relates_scopeResolver _).bind fun _ _ no => no.elim
  · refine (relates_descriptorParts _).bind fun _ read same => ?_
    obtain ⟨rfl, heedless⟩ := same
    obtain ⟨label, reader⟩ := read
    refine (blind_note label).bind fun _ => ?_
    cases reader with
    | none => exact .pure _
    | some b => exact blind_runBody unaware label (heedless b rfl) _ _
  · refine (relates_descriptorParts _).bind fun _ read same => ?_
    obtain ⟨rfl, -⟩ := same
    exact (blind_note _).bind fun _ => .pure _
  · refine (relates_descriptorParts _).bind fun _ read same => ?_
    obtain ⟨rfl, -⟩ := same
    exact (blind_note _).bind fun _ => .pure _
  · exact .get_bind (fun w fs => by rw [parts]) fun w => by split <;> grind
  · exact (Closure.blind_wrap unaware _).bind fun c => Closure.blind_toValue c
  · exact (relates_capsuleAt _).bind fun _ _ no => no.elim
  · refine Veil.Relates.reading_bind (fun _ _ => rfl) fun w covered => ?_
    split
    · rename_i hp
      cases heedless_payload covered.2 hp
    · exact .throw _
  all_goals first
    | exact (text _).map
    | exact .raise _

/-- **Heedless code** is called blindly. -/
theorem blind_callCode {f : FunctionRec} (hf : f.code.heedless = true) (args : List Value)
    (named : Members) : (Veil.heedless marks).Blind
      (match f.code with
      | .body label b => do
        Run.note label
        runBody run label b args named
      | .silent b => runBody run f.name b args named
      | .mark label => do
        Run.note label
        pure .none
      | .hook label h => callHook run label h args
      | .script script => callScript run script args
      | .host m d => callHost run f.name m d args named) := by
  cases hc : f.code with
  | body label b =>
    rw [hc] at hf
    exact (blind_note label).bind fun _ => blind_runBody unaware label hf args named
  | silent b =>
    rw [hc] at hf
    exact blind_runBody unaware f.name hf args named
  | mark label => exact (blind_note label).bind fun _ => .pure _
  | hook label h =>
    rw [hc] at hf
    exact blind_callHook unaware label hf args
  | script script => rw [hc] at hf; cases hf
  | host m d => rw [hc] at hf; cases hf

/-- A **function** of a heedless world is called blindly. -/
theorem blind_callFunction (i : FunctionId) (args : List Value) (named : Members) :
    (Veil.heedless marks).Blind (callFunction run i args named) := by
  have called {f : FunctionRec} (hf : f.code.heedless = true) :=
    blind_callCode unaware hf args named
  intro w w' alike
  rw [callFunction, Run.outcome_bind_of_ok (Run.outcome_reading _ w),
    Run.outcome_bind_of_ok (Run.outcome_reading _ w')]
  rcases alike.function i with same | ⟨f, f', hf, hf', key⟩
  · rw [same]
    rcases hf : w.functions[i]? with _ | f
    · exact ⟨alike, .error _⟩
    · exact called (alike.covered.2.functions f (Array.mem_of_getElem? hf)) w w' alike
  · rw [hf, hf']
    simp only [key.code_eq, key.name_eq]
    exact called (alike.covered.2.functions f (Array.mem_of_getElem? hf)) w w' alike

/-- What an instance takes over of its arguments is found blindly. -/
@[grind ←] theorem blind_takenOver (c : ClassRef) (starts : Bool) (args : List Value) :
    (Veil.heedless marks).Blind (takenOver run c starts args) := by
  refine .get_bind (fun w fs => by simp) fun w => ?_
  extract_lets below
  clear_value below
  split <;> grind

omit unaware in
/-- What an instance carries of its arguments asks **no contexts**. -/
@[grind =] theorem heedless_carrying (taken : Value) : (carrying taken).heedless = true := by
  cases taken <;> rfl

/-- An instance is made blindly. -/
theorem blind_newInstance (c : ClassRef) (args : List Value) (named : Members) :
    (Veil.heedless marks).Blind (newInstance run c args named) := by
  have task (t : Task) : (Veil.heedless marks).Blind (run t) := unaware t
  have isOpen (w : World) (fs : Array FunctionRec) :
      Build.isOpen (w.withFunctions fs) c = Build.isOpen w c := by
    cases c <;> rfl
  refine .get_bind (fun w fs => by simp [isOpen]) fun w => ?_
  split
  · grind
  · grind
  · rename_i start function _
    have started (v : Value) : (Veil.heedless marks).Blind (Attribute.bind run start (some v) c) :=
      Attribute.blind_bind unaware c (Or.inr fun o k => function o k _)
    grind

omit unaware in
/-- A method of a native class is called blindly. -/
theorem blind_callNativeMethod (name : String) (self : Value) (args : List Value) :
    (Veil.heedless marks).Blind (callNativeMethod name self args) := by
  unfold callNativeMethod
  split
  · exact (blind_grow _ _).bind fun _ => .pure _
  all_goals grind

omit unaware in
theorem blind_notCallable {V : Veil} {α : Type} (v : Value) :
    V.Blind (notCallable v : Run α) := by
  unfold notCallable
  grind

/-- A value is called through its class blindly. -/
theorem blind_callByClass (v : Value) (args : List Value) (named : Members) :
    (Veil.heedless marks).Blind (callByClass run v args named) := by
  refine Veil.Blind.bind (.reading fun _ _ => by simp) fun c =>
    Veil.Blind.bind (.reading fun _ _ => by simp) fun member => ?_
  split
  · exact blind_notCallable v
  · exact blind_notCallable v
  · rename_i member function
    exact (Attribute.blind_bind unaware c (Or.inr fun o k => function o k _)).bind fun _ =>
      unaware _

/-- A value of a heedless world is **called** blindly. -/
theorem blind_call (f : Value) (args : List Value) (named : Members) :
    (Veil.heedless marks).Blind (call run f args named) := by
  have task (t : Task) : (Veil.heedless marks).Blind (run t) := unaware t
  have byClass (v : Value) : (Veil.heedless marks).Blind (callByClass run v args named) :=
    blind_callByClass unaware v args named
  have made (c : ClassRef) : (Veil.heedless marks).Blind (newInstance run c args named) :=
    blind_newInstance unaware c args named
  unfold call
  split
  · exact blind_callFunction unaware _ args named
  · exact blind_callLibrary unaware _ args named
  · exact task _
  · exact task _
  · exact Kernel.blind_call unaware _ args
  · exact blind_callNativeMethod _ _ args
  · exact task _
  · exact (relates_capsuleAt _).bind fun _ _ no => no.elim
  · exact Veil.Blind.bind (.reading fun _ _ => by simp) fun member => by split <;> grind
  · exact Veil.Blind.bind (.reading fun _ _ => rfl) fun payload => by split <;> grind
  · exact byClass _

/-- One task more is done **in the same way** under the veil. -/
theorem blind_perform (t : Task) : (Veil.heedless marks).Blind (perform run t) := by
  cases t with
  | call f args named => exact blind_call unaware f args named
  | text active v => exact Label.blind_text unaware active v

omit unaware in
/-- In a heedless world the interpreter is **unaware** of a veil, whatever the budget. -/
theorem unaware_runner (budget : Nat) : (Veil.heedless marks).Unaware (runner budget) := by
  induction budget with
  | zero => exact fun t => .throw _
  | succ budget ih => exact fun t => blind_perform ih t

end Interpreter

end Heedless

end OrderedScope
