import OrderedScope.Expression
import OrderedScope.Kernel
import OrderedScope.Visible
import OrderedScope.Proofs.Follows.Access

/-!
# The Course of Resolving a Name

Resolving a name, making a resolver and everything that the library does with a value follow their
runner. An evaluation is the one run that is not made of changes and tasks alone: it sets the scope
for its body and sets it back, and so it is one step of a course of its own kind.

## Main results

* `Resolver.outcome_evaluate`: how an evaluation ends, by how its body does.
* `Resolver.follows_resolve`, `Resolver.follows_member`, `Resolver.follows_evaluate`: a resolver
  follows its runner.
-/

namespace OrderedScope

variable {m : Hearing} {run : Runner}

@[grind ←] instance follows_newBody (label : String) (b : Body) (attrs : Members) :
    Follows m run (newBody label b attrs) := by
  unfold newBody
  exact (Follows.newFunction fun _ => rfl).map

@[grind ←] instance follows_required (key : String) (found : Option Value) :
    Follows m run (required key found) := by
  unfold required
  grind

namespace Expr

mutual

@[grind ←] instance follows_eval : ∀ e : Expr, Follows m run (eval e)
  | .list items => (follows_evalList items).map
  | .tuple items => (follows_evalList items).map
  | .dict entries => (follows_evalEntries entries).map
  | .none => .pure _
  | .bool b => .pure _
  | .int n  => .pure _
  | .float x => .pure _
  | .str s  => .pure _
  | .bytes s  => .pure _
  | .range n  => .pure _
  | .group g  => .pure _
  | .direction groups  => .pure _
  | .object id => (Follows.reading (by simp)).bind fun _ => follows_required _ _
  | .cls name => (Follows.reading (by simp)).bind fun _ => follows_required _ _
  | .module name => (Follows.reading (by simp)).bind fun _ => follows_required _ _
  | .function label body restricted => follows_newBody _ _ _
  | .ambientScope => (Follows.reading (by simp)).bind fun found => by cases found <;> grind
  | .keptScope key => (Follows.reading (by simp)).bind fun _ => follows_required _ _
  | .closure id => (Follows.reading (by simp)).bind fun _ => follows_required _ _
  | .handle id => (Follows.reading (by simp)).bind fun _ => follows_required _ _

@[grind ←] instance follows_evalList : ∀ items : List Expr, Follows m run (evalList items)
  | [] => .pure []
  | e :: rest =>
      (follows_eval e).bind fun v => (follows_evalList rest).bind fun vs => .pure (v :: vs)

@[grind ←] instance follows_evalEntries :
    ∀ entries : List (String × Expr), Follows m run (evalEntries entries)
  | [] => .pure []
  | (name, e) :: rest =>
      (follows_eval e).bind fun v => (follows_evalEntries rest).bind fun vs =>
        .pure ((name, v) :: vs)

end

end Expr

/-- What an observer does follows its runner if it is heard. -/
theorem Observer.follows_react (o : Observer) (ho : m.heeds o) :
    Follows m run (Observer.react run o) := by
  cases o with
  | record => exact .pure _
  | raise e => exact .raise e
  | delete target name => exact Attribute.follows_delete target name
  | select fails =>
      cases m with
      | deaf => cases ho
      | _ => exact (Follows.reading fun _ => rfl).bind fun events => by split <;> grind

/-- Two observers that are heard alike are **told** an event alike. -/
theorem twin_emit [m.Tells] {o o' : Option Observer} (e : Event) (h : m.ear o = m.ear o') :
    Twin m run (emit run o e) (emit run o' e) :=
  .event e inferInstance h fun o ho => (o.follows_react ho).twin

@[grind ←] instance follows_emit [m.Tells] (observer : Option Observer) (e : Event) :
    Follows m run (emit run observer e) := ⟨twin_emit e rfl⟩

namespace Closure

@[grind ←] instance follows_emptyNamespace : Follows m run (emptyNamespace) := by
  exact .newObject fun _ => rfl

@[grind ←] instance follows_moduleOf? (fn : Value) : Follows m run (moduleOf? run fn) := by
  unfold moduleOf?
  grind

@[grind ←] instance follows_callee (given : Value) : Follows m run (callee run given) := by
  unfold callee
  refine Follows.get_bind (fun w => by simp) fun w => ?_
  split <;> grind

@[grind ←] instance follows_receiver? (fn : Value) : Follows m run (receiver? run fn) := by
  unfold receiver?
  grind

@[grind ←] instance follows_pairedSelf? (code cells : Value) :
    Follows m run (pairedSelf? run code cells) := by
  unfold pairedSelf?
  grind

@[grind ←] instance follows_capturedSelf? (fn : Value) : Follows m run (capturedSelf? run fn) := by
  unfold capturedSelf?
  grind

@[grind ←] instance follows_inferOuter (given : Value) : Follows m run (inferOuter run given) := by
  refine (follows_callee given).bind fun fn => (follows_receiver? fn).bind fun receiver => ?_
  cases receiver with
  | some receiver => exact .pure _
  | none =>
    refine (follows_capturedSelf? fn).bind fun content => ?_
    cases content with
    | some content => exact .pure _
    | none => exact (follows_moduleOf? fn).bind fun home => by cases home <;> grind

@[grind ←] instance follows_make (fn : Value) (outer : Option Value) :
    Follows m run (make run fn outer) := by
  unfold make
  grind

@[grind ←] instance follows_wrap (v : Value) : Follows m run (wrap run v) := by
  unfold wrap
  grind

@[grind ←] instance follows_toValue (c : Closure) : Follows m run (toValue c) := by
  exact .newObject fun _ => rfl

end Closure

namespace KeptClosure

@[grind ←] instance follows_outer (c : KeptClosure) : Follows m run (c.outer run) := by
  unfold outer
  grind

@[grind ←] instance follows_again (c : KeptClosure) : Follows m run (c.again run) := by
  unfold again
  grind

@[grind ←] instance follows_toValue (c : KeptClosure) : Follows m run c.toValue := by
  unfold toValue
  grind

end KeptClosure

namespace Reference

@[grind ←] instance follows_moduleOf (names : List String) :
    Follows m run (moduleOf run names) := by
  induction names with
  | nil => exact .raise _
  | cons part above ih =>
    refine (Follows.reading (by simp)).bind fun found => ?_
    cases found with
    | some i => exact .pure _
    | none =>
      simp only
      split
      · exact .raise _
      · exact ih.bind fun parent => by grind

@[grind ←] instance follows_moduleNamed (name : String) : Follows m run (moduleNamed run name) := by
  unfold moduleNamed
  grind

@[grind ←] instance follows_follow (r : Reference) : Follows m run (follow run r) := by
  unfold follow
  grind

@[grind ←] instance follows_load (text : String) : Follows m run (load run text) := by
  unfold load
  grind

@[grind ←] instance follows_kernel (text : Option String) : Follows m run (kernel run text) := by
  unfold kernel
  grind

end Reference

namespace Label

@[grind ←] instance follows_part (active : List ObjectId) (v : Value) :
    Follows m run (part run active v) := by
  unfold part
  grind [Follows.task run]

@[grind ←] instance follows_parts (active : List ObjectId) (vs : List Value) :
    Follows m run (parts run active vs) := by
  unfold parts
  grind

@[grind ←] instance follows_quotedPart (active : List ObjectId) (v : Value) :
    Follows m run (quotedPart run active v) := by
  unfold quotedPart
  grind [Follows.task run]

@[grind ←] instance follows_tupleText (active : List ObjectId) (items : List Value) :
    Follows m run (tupleText run active items) := by
  unfold tupleText
  grind

@[grind ←] instance follows_heldText (active : List ObjectId) (v : Value) :
    Follows m run (heldText run active v) := by
  unfold heldText
  grind

@[grind ←] instance follows_fields (active : List ObjectId) (key : String → String)
    (entries : Members) : Follows m run (fields run active key entries) := by
  unfold fields
  grind

@[grind ←] instance follows_standardText (active : List ObjectId) (v : Value) :
    Follows m run (standardText run active v) := by
  refine Follows.get_bind (fun w => ?_) fun w => ?_
  · have scopes (i : ResolverId) : ((m.view w).resolvers[i]?).elim "" scopeText
        = (w.resolvers[i]?).elim "" scopeText := m.view_resolver_elim w i _ fun _ => rfl
    have resolvers (i : ResolverId) : ((m.view w).resolvers[i]?).elim "" resolverText
        = (w.resolvers[i]?).elim "" resolverText := m.view_resolver_elim w i _ fun _ => rfl
    cases v with
    | capsule i =>
        simp only [Hearing.view_capsules, Array.getElem?_map]
        cases w.capsules[i]? <;> rfl
    | _ => simp [scopes, resolvers]
  · split <;> grind

@[grind ←] instance follows_text (active : List ObjectId) (v : Value) :
    Follows m run (text run active v) := by
  unfold text
  grind

end Label

namespace Label

@[grind ←] instance follows_toldLength (text : Value) : Follows m run (toldLength run text) := by
  unfold toldLength
  grind

@[grind ←] instance follows_beginning (text : Value) : Follows m run (beginning run text) := by
  unfold beginning
  grind

@[grind ←] instance follows_withDots (head : Value) : Follows m run (withDots run head) := by
  unfold withDots
  grind

@[grind ←] instance follows_trimmed (text : Value) : Follows m run (trimmed run text) := by
  unfold trimmed
  grind

end Label

@[grind ←] instance follows_describe (context : Value) : Follows m run (describe run context) := by
  refine (Follows.reading (by simp)).bind fun isModule => ?_
  cases isModule with
  | true => exact (Attribute.follows_get _ _).bind fun name => by grind
  | false =>
    refine (Follows.task run _).recover (fun e _ => ?_) |>.bind fun _ => Label.follows_trimmed _
    exact (Follows.reading (by simp)).bind fun c => by grind [Follows.task run]

namespace Visible

@[grind ←] instance follows_tableKeys (table : Value) : Follows m run (tableKeys run table) := by
  unfold tableKeys
  split
  · exact .pure _
  · exact .pure _
  · exact (Attribute.follows_get _ _).bind fun keys => (Follows.task run _).bind fun found =>
      by grind

@[grind ←] instance follows_classNames (height : Nat) (c : Value) :
    Follows m run (classNames run height c) := by
  induction height generalizing c with
  | zero => exact .pure []
  | succ height ih =>
    refine (Attribute.follows_get? _ _).bind fun table => ?_
    extract_lets __do_jp
    have rest (own : List String) : Follows m run (__do_jp own) := by
      refine (Attribute.follows_get? _ _).bind fun bases => ?_
      grind
    clear_value __do_jp
    cases table <;> grind

@[grind ←] instance follows_heightLimit : Follows m run (heightLimit) := by
  unfold heightLimit
  grind

@[grind ←] instance follows_objectNames (v : Value) : Follows m run (objectNames run v) := by
  refine (Attribute.follows_get? _ _).bind fun own => ?_
  extract_lets __do_jp
  have rest (own : List String) : Follows m run (__do_jp own) := by
    simp only [__do_jp]
    grind
  clear_value __do_jp
  split <;> grind

@[grind ←] instance follows_moduleNames (v : Value) : Follows m run (moduleNames run v) := by
  unfold moduleNames
  grind [Follows.task run]

@[grind ←] instance follows_listing (v : Value) : Follows m run (listing run v) := by
  unfold listing
  grind

end Visible

@[grind ←] instance follows_visibleNames (context : Value) (restricted : Bool) :
    Follows m run (visibleNames run context restricted) := by
  unfold visibleNames
  grind

@[grind ←] instance Resolver.follows_scopeNames (r : Resolver) :
    Follows m run (Resolver.scopeNames run r) := by
  unfold Resolver.scopeNames
  grind

namespace Value

@[grind ←] instance follows_add (v more : Value) : Follows m run (add v more) := by
  unfold add
  grind

end Value

namespace Kernel

@[grind ←] instance follows_length (v : Value) : Follows m run (length run v) := by
  unfold length
  grind

@[grind ←] instance follows_absolute (v : Value) : Follows m run (absolute v) := by
  unfold absolute
  grind

@[grind ←] instance follows_incomparable {α : Type} (operator : String) (v w : Value) :
    Follows m run (incomparable operator v w : Run α) := by
  unfold incomparable
  grind

@[grind ←] instance follows_greater (v w : Value) : Follows m run (greater v w) := by
  unfold greater
  grind

@[grind ←] instance follows_maximum (vs : List Value) : Follows m run (maximum vs) := by
  unfold maximum
  grind

@[grind ←] instance follows_insertSorted (v : Value) (rest : List Value) :
    Follows m run (insertSorted v rest) := by
  induction rest <;> grind [insertSorted]

@[grind ←] instance follows_sorted (vs : List Value) : Follows m run (sorted vs) := by
  unfold sorted
  grind

@[grind ←] instance follows_importNamed (name : String) : Follows m run (importNamed run name) := by
  unfold importNamed
  grind

@[grind ←] instance follows_call (name : String) (args : List Value) :
    Follows m run (call run name args) := by
  unfold call
  grind [Follows.task run]

end Kernel

namespace Resolver

@[grind ←] instance follows_announcing (name : String) (group : Group) (position : Nat)
    (context : Value) : Follows m run (announcing run name group position context) := by
  unfold announcing
  grind

/-- The scan of the contexts follows if asking each does. -/
theorem follows_firstAnswer {α : Type} {ask : Value → Run (Option α)}
    (ha : ∀ context, Follows m run (ask context)) (line : List ((Group × Value) × Nat)) :
    Follows m run (firstAnswer ask line) := by
  induction line with
  | nil => exact .pure _
  | cons entry rest ih =>
    refine (ha entry.1.2).bind fun found => ?_
    cases found with
    | none => exact ih
    | some a => exact .pure _

@[grind ←] instance follows_asking (r : Resolver) (name : String) (context : Value) :
    Follows m run (asking run r name context) := by
  unfold asking
  grind

@[grind ←] instance follows_fetching (r : Resolver) (name : String) (context : Value) :
    Follows m run (fetching run r name context) :=
  Strategy.follows_lookup r.variant.strategy context name

@[grind ←] instance follows_requireCallable (name : String) (handle : Value) :
    Follows m run (requireCallable run name handle) := by
  unfold requireCallable
  grind

/-! ### Questions, with a watcher or another

A resolver asks its contexts in the same way whatever watchers it tells. -/

section Watched

variable {r : Resolver} {o : Option Observer} [m.Tells] (ho : m.ear r.observer = m.ear o)

include ho

/-- A search has **a twin** with any observer that is heard alike. -/
theorem twin_search {α : Type} (name : String) {ask ask' : Value → Run (Option α)}
    (ha : ∀ context, Twin m run (ask context) (ask' context)) :
    Twin m run (search run r name ask) (search run { r with observer := o } name ask') :=
  .question inferInstance ho ha (fun g i context => (follows_announcing name g i context).twin)
    fun o ho => (o.follows_react ho).twin

/-- To resolve a name has a twin with any observer that is heard alike. -/
theorem twin_resolve (name : String) :
    Twin m run (resolve run r name) (resolve run { r with observer := o } name) :=
  (twin_search ho name fun context => (follows_asking r name context).twin).map _

/-- To fetch a member has a twin with any observer that is heard alike. -/
theorem twin_member (name : String) :
    Twin m run (member run r name) (member run { r with observer := o } name) :=
  (twin_search ho name fun context => (follows_fetching r name context).twin).map _

/-- To ask whether some context answers has a twin with any observer that is heard alike. -/
theorem twin_respondsTo (name : String) :
    Twin m run (respondsTo run r name) (respondsTo run { r with observer := o } name) :=
  ((twin_resolve ho name).bind fun _ _ => .pure true).recover fun _ => .pure false

/-- To fetch a method has a twin with any observer that is heard alike. -/
theorem twin_methodHandle (name : String) :
    Twin m run (methodHandle run r name) (methodHandle run { r with observer := o } name) :=
  (twin_member ho name).bind fun handle _ => (follows_requireCallable name handle).twin

/-- An evaluation has a twin with any observer that is heard alike. -/
theorem twin_evaluate (id : ResolverId) :
    Twin m run (evaluate run id r) (evaluate run id { r with observer := o }) :=
  .evaluation id inferInstance ho fun o ho => (o.follows_react ho).twin

end Watched

@[grind ←] instance follows_resolve [m.Tells] (r : Resolver) (name : String) :
    Follows m run (resolve run r name) := ⟨twin_resolve rfl name⟩

@[grind ←] instance follows_member [m.Tells] (r : Resolver) (name : String) :
    Follows m run (member run r name) := ⟨twin_member rfl name⟩

@[grind ←] instance follows_respondsTo [m.Tells] (r : Resolver) (name : String) :
    Follows m run (respondsTo run r name) := ⟨twin_respondsTo rfl name⟩

@[grind ←] instance follows_methodHandle [m.Tells] (r : Resolver) (name : String) :
    Follows m run (methodHandle run r name) := ⟨twin_methodHandle rfl name⟩

/-- An evaluation is **one step**. -/
@[grind ←] instance follows_evaluate [m.Tells] (id : ResolverId) (r : Resolver) :
    Follows m run (r.evaluate run id) := ⟨twin_evaluate rfl id⟩

/-- An explanation follows, context by context. -/
theorem follows_explain_go (r : Resolver) (name : String) (found : Bool)
    (line : List ((Group × Value) × Nat)) : Follows m run (explain.go run r name found line) := by
  induction line generalizing found with
  | nil => exact .pure []
  | cons entry rest ih =>
    exact (Strategy.follows_respondsTo _ _ _).bind fun matched => (ih _).bind fun steps => .pure _

@[grind ←] instance follows_explain (r : Resolver) (name : String) :
    Follows m run (explain run r name) := follows_explain_go r name false r.numbered

/-- An explanation does not tell the observer, whichever it is. -/
theorem explain_observer (r : Resolver) (o : Option Observer) (name : String) :
    explain run { r with observer := o } name = explain run r name := by
  have steps (found : Bool) (line : List ((Group × Value) × Nat)) :
      explain.go run { r with observer := o } name found line
        = explain.go run r name found line := by
    induction line generalizing found with
    | nil => rfl
    | cons entry rest ih => simp only [explain.go, ih]
  exact steps false r.numbered

end Resolver

/-! ### Making resolvers -/

namespace Direction

@[grind ←] instance follows_groupsOf? (items : List Value) :
    Follows m run (groupsOf? run items) := by
  induction items <;> grind [groupsOf?, Follows.task run]

@[grind ←] instance follows_ofItems? (items : Run (List Value)) [hi : Follows m run items] :
    Follows m run (ofItems? run items) := by
  unfold ofItems?
  grind

@[grind ←] instance follows_passesAsSequence (v : Value) :
    Follows m run (passesAsSequence run v) := by
  refine (Attribute.follows_get v _).bind fun kind => ?_
  cases kind with
  | cls c => exact .reading fun w => by simp
  | _ => exact .raise _

@[grind ←] instance follows_groupsUnder? (letters : List Value) :
    Follows m run (groupsUnder? run letters) := by
  induction letters <;> grind [groupsUnder?]

@[grind ←] instance follows_spelledBy? (upper : Value) : Follows m run (spelledBy? run upper) := by
  unfold spelledBy?
  split <;> grind [Follows.task run]

@[grind ←] instance follows_ofText? (v : Value) : Follows m run (ofText? run v) := by
  unfold ofText?
  grind

@[grind ←] instance follows_equalsEntries (d : Direction) (x : Value) :
    Follows m run (equalsEntries run d x) := by
  unfold equalsEntries
  grind

@[grind ←] instance follows_equalsFields (d : Direction) (v : Value) :
    Follows m run (equalsFields run d v) := by
  unfold equalsFields
  grind

@[grind ←] instance follows_equals (d : Direction) (v : Value) :
    Follows m run (equals run d v) := by
  unfold equals
  grind

@[grind ←] instance follows_takeByClass (v : Value) : Follows m run (takeByClass run v) := by
  unfold takeByClass
  grind

@[grind ←] instance follows_take? (v : Value) : Follows m run (take? run v) := by
  unfold take?
  split <;> grind

@[grind ←] instance follows_reject {α : Type} (v : Value) :
    Follows m run (reject run v : Run α) := by
  unfold reject
  grind

@[grind ←] instance follows_accept (v : Value) : Follows m run (accept run v) := by
  unfold accept
  grind

@[grind ←] instance follows_ofAccepted (x : Value) : Follows m run (ofAccepted run x) := by
  unfold ofAccepted
  grind

@[grind ←] instance follows_coerce (v : Value) : Follows m run (coerce run v) := by
  unfold coerce
  grind

end Direction

@[grind ←] instance follows_loadRegistry : Follows m run (loadRegistry) := by
  refine (Follows.reading (by simp)).bind fun registry => ?_
  exact (Follows.registry fun _ => rfl).bind fun _ => by grind

@[grind ←] instance follows_findVariant (visibility : Value) :
    Follows m run (findVariant visibility) := by
  unfold findVariant
  grind

@[grind ←] instance follows_requireVariant (visibility : Value) :
    Follows m run (requireVariant run visibility) := by
  unfold requireVariant
  grind

namespace Resolver

section Watched

variable {s : Setup} {o : Option Observer} (ho : m.ear s.observer = m.ear o)

include ho

/-- Making a resolver with an accepted direction takes the same steps **whatever watchers** it is to
tell. -/
theorem twin_ofAccepted (variant : Variant) (c : KeptClosure) (x : Value) :
    Twin m run (ofAccepted run variant c x s)
      (ofAccepted run variant c x { s with observer := o }) :=
  (KeptClosure.follows_outer c).twin.bind fun _ _ => (Direction.follows_ofAccepted x).twin.bind
    fun _ _ => (Follows.log _ _).twin.bind fun _ _ =>
      (Follows.reading (by simp)).twin.bind fun id _ =>
        (Twin.pushResolver ho).bind fun _ _ => .pure id

/-- Making a resolver of a kept closure takes the same steps **whatever watchers** it is to tell. -/
theorem twin_ofClosure (variant : Variant) (c : KeptClosure) :
    Twin m run (ofClosure run variant c s) (ofClosure run variant c { s with observer := o }) :=
  (Direction.follows_accept _).twin.bind fun x _ => twin_ofAccepted ho variant c x

/-- The making of a resolver has a twin with any observer that is heard alike. -/
theorem twin_make (variant : Variant) (closure : Value) :
    Twin m run (make run variant closure s) (make run variant closure { s with observer := o }) :=
  (Closure.follows_wrap closure).twin.bind fun c _ => twin_ofClosure ho variant c

/-- The making of a resolver by its visibility has a twin with any observer that is heard alike. -/
theorem twin_ofVisibility (visibility closure : Value) :
    Twin m run (ofVisibility run visibility closure s)
      (ofVisibility run visibility closure { s with observer := o }) :=
  (follows_requireVariant visibility).twin.bind fun variant _ => twin_make ho variant closure

end Watched

@[grind ←] instance follows_ofClosure (variant : Variant) (c : KeptClosure) (s : Setup) :
    Follows m run (ofClosure run variant c s) := ⟨twin_ofClosure rfl variant c⟩

@[grind ←] instance follows_make (variant : Variant) (closure : Value) (s : Setup) :
    Follows m run (make run variant closure s) := ⟨twin_make rfl variant closure⟩

@[grind ←] instance follows_ofVisibility (visibility closure : Value) (s : Setup) :
    Follows m run (ofVisibility run visibility closure s) :=
  ⟨twin_ofVisibility rfl visibility closure⟩

/-- The resolver that was just made is **found** at its place. -/
theorem ofClosure_resolverAt (variant : Variant) (c : KeptClosure) (s : Setup) :
    ofClosure run variant c s >>= resolverAt = (do
      let x ← Direction.accept run s.direction
      let outer ← c.outer run
      let d ← Direction.ofAccepted run x
      let r : Resolver := ⟨variant, c.fn, outer, d, s.inner, kernelOf s.kernel, s.observer⟩
      Run.log .debug ("Created " ++ variant.className ++ " (direction=" ++ d.name ++ ", inner="
        ++ toString s.inner.length ++ ")")
      modify fun w => { w with resolvers := w.resolvers.push r }
      pure r) := by
  have found (r : Resolver) : (do
      let id ← Run.reading (·.resolvers.size)
      modify fun w => { w with resolvers := w.resolvers.push r }
      resolverAt id) = (do
      modify fun w => { w with resolvers := w.resolvers.push r }
      pure r : Run Resolver) := by
    funext w
    show ((w.resolvers.push r)[w.resolvers.size]?).elim
        (Run.raise (.noKey (toString w.resolvers.size))) (pure : Resolver → Run Resolver)
        { w with resolvers := w.resolvers.push r } = _
    rw [Array.getElem?_push_size]
    rfl
  simp only [ofClosure, ofAccepted, bind_assoc, pure_bind, found]

/-- Making a resolver and taking it **from its place** follows the runner. -/
instance follows_made (visibility closure : Value) (s : Setup) :
    Follows m run (ofVisibility run visibility closure s >>= resolverAt) := by
  simp only [ofVisibility, make, bind_assoc, ofClosure_resolverAt]
  exact (follows_requireVariant _).bind fun variant => (Closure.follows_wrap _).bind fun c =>
    (Direction.follows_accept _).bind fun x => (KeptClosure.follows_outer c).bind fun _ =>
    (Direction.follows_ofAccepted x).bind fun d =>
    (Follows.log _ _).bind fun _ => ⟨(Twin.pushResolver rfl).bind fun _ _ => .pure _⟩

end Resolver

end OrderedScope
