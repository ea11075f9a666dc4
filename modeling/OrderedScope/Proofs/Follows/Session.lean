import OrderedScope.Interpreter
import OrderedScope.Proofs.Follows.Resolution

/-!
# The Course of a Session

Settings, capsules, reports, the command line and every command of a session follow their runner,
and so does the interpreter: one task is done by changes, evaluations and the tasks within it.

## Main results

* `Session.follows_execute`: a command follows its runner.
* `Interpreter.follows_perform`: so does one task, which is what the runner of a larger budget does
  with the runner of a smaller one.
* `Follows.keeps`: a run that follows the interpreter keeps what every change keeps.
-/

namespace OrderedScope

variable {m : Hearing} {run : Runner}

namespace Settings

@[grind ←] instance follows_tableOf (needed : String) (v : Value) :
    Follows m run (tableOf needed v) := by
  unfold tableOf
  grind

@[grind ←] instance follows_entryOr (v : Value) (key : String) (default : Value) :
    Follows m run (entryOr v key default) := by
  unfold entryOr
  grind

@[grind ←] instance follows_pairOf (index : Nat) (v : Value) : Follows m run (pairOf index v) := by
  unfold pairOf
  grind

@[grind ←] instance follows_asTable (v : Value) : Follows m run (asTable v) := by
  unfold asTable
  grind

@[grind ←] instance follows_settingKeys (v : Value) : Follows m run (settingKeys v) := by
  unfold settingKeys
  grind

@[grind ←] instance follows_unknownError (place : String) (unknown : List Value) :
    Follows m run (unknownError place unknown) := by
  unfold unknownError
  grind

@[grind ←] instance follows_settingsOf (place : String) (v : Value) :
    Follows m run (settingsOf place v) := by
  unfold settingsOf
  grind

@[grind ←] instance follows_profilesOf (v : Value) (place : String → String) :
    Follows m run (profilesOf v place) := by
  unfold profilesOf
  grind

@[grind ←] instance follows_givenTables (v : Value) : Follows m run (givenTables v) := by
  unfold givenTables
  grind

@[grind ←] instance follows_checkDefaults (tables : Members) :
    Follows m run (checkDefaults tables) := by
  unfold checkDefaults
  grind

@[grind ←] instance follows_checkProfiles (tables : Members) :
    Follows m run (checkProfiles tables) := by
  unfold checkProfiles
  grind

@[grind ←] instance Config.follows_ofDocuments (main : Value) (localDocument : Value) :
    Follows m run (Config.ofDocuments main localDocument) :=
  (follows_entryOr _ _ _).bind fun _ => (follows_entryOr _ _ _).bind fun _ =>
    (follows_entryOr _ _ _).bind fun _ => (follows_entryOr _ _ _).bind fun _ =>
    (follows_settingsOf _ _).bind fun _ => (follows_entryOr _ _ _).bind fun _ =>
    (follows_profilesOf _ _).bind fun _ => (follows_givenTables _).bind fun _ =>
    (follows_checkDefaults _).bind fun _ => (follows_checkProfiles _).bind fun _ => .pure _

@[grind ←] instance Config.follows_profileInUse (c : Config) (given : Value) :
    Follows m run (Config.profileInUse run c given) := by
  unfold Config.profileInUse
  grind

@[grind ←] instance Config.follows_withProfile (c : Config) (settings : Members) (profile : Value) :
    Follows m run (Config.withProfile run c settings profile) := by
  unfold Config.withProfile
  grind

@[grind ←] instance follows_directionOf (wanted : Value) :
    Follows m run (directionOf run wanted) := by
  unfold directionOf
  grind

@[grind ←] instance Config.follows_project (c : Config) : Follows m run (Config.project c) := by
  refine (Value.follows_plainTruth _).bind fun given => ?_
  grind

@[grind ←] instance Config.follows_settle (c : Config) (profile : Value) (settings : Members) :
    Follows m run (Config.settle run c profile settings) := by
  unfold Config.settle
  grind

@[grind ←] instance Config.follows_resolve (c : Config) (given : Value) :
    Follows m run (Config.resolve run c given) := by
  unfold Config.resolve
  grind

@[grind ←] instance follows_readFile (path : List String) : Follows m run (readFile path) := by
  unfold readFile
  grind

@[grind ←] instance follows_load? (start : Option (List String)) : Follows m run (load? start) := by
  unfold load?
  grind

@[grind ←] instance follows_load (start : Option (List String)) : Follows m run (load start) := by
  unfold load
  grind

@[grind ←] instance follows_resolve (profile : Value) (start : Option (List String)) :
    Follows m run (resolve run profile start) := by
  unfold resolve
  grind

end Settings

@[grind ←] instance Evaluation.follows_perform [m.Tells] (id : ResolverId) (e : Evaluation) :
    Follows m run (Evaluation.perform run id e) := by
  cases e with
  | evaluate => exact ⟨.resolverAt_bind id fun _ _ ho => Resolver.twin_evaluate ho id⟩
  | evaluatePrivate => exact ⟨.resolverAt_bind id fun _ _ ho => Resolver.twin_evaluate ho id⟩
  | publicMethod name _ =>
      exact ⟨.resolverAt_bind id fun _ _ ho => Resolver.twin_methodHandle ho name⟩
  | privateMethod name _ =>
      exact ⟨.resolverAt_bind id fun _ _ ho => Resolver.twin_methodHandle ho name⟩

/-- An evaluation in contexts has **a twin** with any observer that is heard alike. -/
theorem Evaluation.twin_inContexts [m.Tells] {s : Setup} {o : Option Observer}
    (ho : m.ear s.observer = m.ear o) (e : Evaluation) (closure : Value) :
    Twin m run (e.inContexts run closure s) (e.inContexts run closure { s with observer := o }) :=
  (Resolver.twin_ofVisibility ho _ closure).bind fun id _ => (e.follows_perform id).twin

@[grind ←] instance Evaluation.follows_inContexts [m.Tells] (e : Evaluation) (closure : Value)
    (s : Setup) : Follows m run (Evaluation.inContexts run e closure s) :=
  ⟨e.twin_inContexts rfl closure⟩

namespace Capsule

/-! ### Capsules, with a watcher or another -/

/-- The making of a capsule has a twin with any observer that is heard alike. -/
theorem twin_make {s : Setup} {o : Option Observer} (ho : m.ear s.observer = m.ear o)
    (closure visibility : Value) :
    Twin m run (make run closure visibility s)
      (make run closure visibility { s with observer := o }) := by
  unfold make
  split
  · exact .throw _
  · exact (follows_requireVariant visibility).twin.bind fun _ _ =>
      (Closure.follows_wrap closure).twin.bind fun c _ =>
      (Direction.follows_accept _).twin.bind fun d _ =>
      (Value.follows_plainText _).twin.bind fun shown _ =>
      (Follows.reading (by simp)).twin.bind fun id _ =>
      (Twin.pushCapsule ho).bind fun _ _ => .pure id

/-- The making of a capsule from settings has a twin with any observer that is heard alike. -/
theorem twin_ofSettings {o o' : Option Observer} (ho : m.ear o = m.ear o')
    (closure profile : Value) (start : Option (List String)) :
    Twin m run (ofSettings run closure profile start o)
      (ofSettings run closure profile start o') :=
  (Settings.follows_resolve _ _).twin.bind fun _ _ =>
    (Value.follows_plainText _).twin.bind fun _ _ => (Follows.log _ _).twin.bind fun _ _ =>
    (Reference.follows_kernel _).twin.bind fun _ _ =>
    twin_make (s := ⟨_, _, _, o⟩) ho closure _

section Watched

variable {c : Capsule} {o : Option Observer} (ho : m.ear c.observer = m.ear o)

include ho

/-- The resolver of a capsule has a twin with any observer that is heard alike. -/
theorem twin_resolver (inner : List Value) (direction visibility : Value) :
    Twin m run (c.resolver run inner direction visibility)
      (({ c with observer := o } : Capsule).resolver run inner direction visibility) := by
  refine (Attribute.follows_truthy visibility).twin.bind fun given _ =>
    (follows_requireVariant _).twin.bind fun variant _ => ?_
  exact (KeptClosure.follows_again c.closure).twin.bind fun kept _ =>
    Resolver.twin_ofClosure (s := ⟨inner, _, _, c.observer⟩) ho variant kept

/-- A call of a capsule has a twin with any observer that is heard alike. -/
theorem twin_call [m.Tells] (inner : List Value) (direction : Value) :
    Twin m run (c.call run inner direction)
      (({ c with observer := o } : Capsule).call run inner direction) :=
  (twin_resolver ho inner direction .none).bind fun id _ =>
    .resolverAt_bind id fun _ _ ho => Resolver.twin_evaluate ho id

/-- An evaluation by a capsule has a twin with any observer that is heard alike. -/
theorem twin_evaluate [m.Tells] (e : Evaluation) (inner : List Value) (direction : Value) :
    Twin m run (c.evaluate run e inner direction)
      (({ c with observer := o } : Capsule).evaluate run e inner direction) :=
  (twin_resolver ho inner direction _).bind fun id _ => (e.follows_perform id).twin

end Watched

@[grind ←] instance follows_make (closure visibility : Value) (s : Setup) :
    Follows m run (make run closure visibility s) := ⟨twin_make rfl closure visibility⟩

@[grind ←] instance follows_ofSettings (closure profile : Value) (start : Option (List String))
    (observer : Option Observer) :
    Follows m run (ofSettings run closure profile start observer) :=
  ⟨twin_ofSettings rfl closure profile start⟩

@[grind ←] instance follows_resolver (c : Capsule) (inner : List Value)
    (direction visibility : Value) : Follows m run (resolver run c inner direction visibility) :=
  ⟨twin_resolver rfl inner direction visibility⟩

@[grind ←] instance follows_call [m.Tells] (c : Capsule) (inner : List Value) (direction : Value) :
    Follows m run (call run c inner direction) := ⟨twin_call rfl inner direction⟩

@[grind ←] instance follows_evaluate [m.Tells] (c : Capsule) (e : Evaluation) (inner : List Value)
    (direction : Value) : Follows m run (evaluate run c e inner direction) :=
  ⟨twin_evaluate rfl e inner direction⟩

end Capsule

namespace Report

@[simp] theorem ofClass_view (w : World) (c : ClassRef) :
    ofClass (m.view w) c = ofClass w c := by
  cases c <;> simp [ofClass]

/-- The report of an object follows if those of its parts do. -/
@[grind ←] theorem follows_ofObject {inner : Value → Run Report} (hi : ∀ v, Follows m run (inner v))
    (i : ObjectId) : Follows m run (ofObject run inner i) := by
  refine .get_bind (fun w => by simp) fun w => ?_
  grind

mutual

/-- The **report** of a value follows if those of its parts do. -/
theorem follows_ofValueWith {inner : Value → Run Report} (hi : ∀ v, Follows m run (inner v)) :
    ∀ v : Value, Follows m run (ofValueWith run inner v)
  | .list items => (follows_ofItems hi items).map
  | .tuple items => (follows_ofItems hi items).map
  | .dict entries => (follows_ofEntries hi entries).map
  | .object i => follows_ofObject hi i
  | .bound _ self =>
      (Follows.reading (by simp)).bind fun _ => (follows_ofValueWith hi self).bind fun _ => .pure _
  | .growing _ => (Follows.reading (by simp)).bind fun _ => (Follows.mapM hi _).map
  | .resolver _ =>
      (Follows.reading fun w => m.view_resolver_map w _ fun _ => rfl).bind fun _ => .pure _
  | .capsule _ => (Label.follows_standardText _ _).map
  | .cls _ => .reading (by simp)
  | .module _ => .reading (by simp)
  | .fn _ => .reading (by simp)
  | .property .. => .reading fun w => by
      rw [show (m.view w).functionName = w.functionName from funext (m.view_functionName w)]
  | .staticMethod _ => .reading (by simp)
  | .classMethod _ => .reading (by simp)
  | .proxy _ => .reading (by simp)
  | .nativeMember _ kind _ => by cases kind <;> first | exact .pure _ | exact .reading (by simp)
  | .none => .pure _
  | .bool _ => .pure _
  | .int _ => .pure _
  | .float _ => .pure _
  | .str _ => .pure _
  | .bytes _ => .pure _
  | .range _ => .reading (by simp)
  | .group _ => .pure _
  | .direction _ => .pure _
  | .libFn _ => .pure _
  | .slot .. => .pure _
  | .nativeFn _ => .pure _
  | .nativeMethod .. => .pure _
  | .code _ => .reading (by simp)
  | .cell .. => .reading (by simp)
  | .missing => .pure _
  | .foreign _ => .reading (by simp)
  | .report _ => .pure _

theorem follows_ofItems {inner : Value → Run Report} (hi : ∀ v, Follows m run (inner v)) :
    ∀ items : List Value, Follows m run (ofItems run inner items)
  | [] => .pure []
  | v :: rest =>
      (follows_ofValueWith hi v).bind fun r => (follows_ofItems hi rest).bind fun rs =>
        .pure (r :: rs)

theorem follows_ofEntries {inner : Value → Run Report} (hi : ∀ v, Follows m run (inner v)) :
    ∀ entries : List (String × Value), Follows m run (ofEntries run inner entries)
  | [] => .pure []
  | (name, v) :: rest =>
      (follows_ofValueWith hi v).bind fun r => (follows_ofEntries hi rest).bind fun rs =>
        .pure ((name, r) :: rs)

end

@[grind ←] instance follows_ofValueTo (depth : Nat) (v : Value) :
    Follows m run (ofValueTo run depth v) := by
  induction depth generalizing v with
  | zero => exact follows_ofValueWith (fun _ => .pure _) v
  | succ depth ih => exact follows_ofValueWith ih v

@[grind ←] instance follows_ofValue (v : Value) : Follows m run (ofValue run v) := by
  unfold ofValue
  grind

@[grind ←] instance follows_ofValues (vs : List Value) : Follows m run (ofValues run vs) := by
  unfold ofValues
  grind

end Report

@[grind ←] instance Error.follows_details (e : Error) : Follows m run (Error.details run e) := by
  unfold Error.details
  grind

@[grind ←] instance Error.follows_report (e : Error) : Follows m run (Error.report run e) := by
  unfold Error.report
  grind

/-- The report of a run that may fail follows if the run does. -/
@[grind ←] theorem Run.follows_reportAttempt {x : Run Report} (hx : Follows m run x) :
    Follows m run (Run.reportAttempt run x) := by
  unfold Run.reportAttempt
  grind

@[grind ←] instance follows_shownLabel (context : Value) :
    Follows m run (shownLabel run context) := by
  unfold shownLabel
  grind

@[grind ←] instance follows_rowsOf (steps : List TraceStep) : Follows m run (rowsOf run steps) := by
  unfold rowsOf
  grind

@[grind ←] instance Console.follows_print (c : Console) (d : Drawing) :
    Follows m run (c.print d) := by
  unfold Console.print
  grind

@[grind ←] instance Console.follows_printRows (c : Console) (resolved : Bool) (title : String)
    (rows : List Row) : Follows m run (c.printRows resolved title rows) := by
  unfold Console.printRows
  grind

@[grind ←] instance follows_displayRows (plain resolved : Bool) (title : String)
    (rows : List Row) : Follows m run (displayRows plain resolved title rows) := by
  refine (Follows.reading (by simp)).bind fun platform => ?_
  split <;> grind

@[grind ←] instance follows_displayDirections (plain : Bool) :
    Follows m run (displayDirections plain) := by
  refine (Follows.reading (by simp)).bind fun platform => ?_
  split <;> grind

@[grind ←] instance follows_displayTrace (r : Resolver) (name : String) (plain : Bool)
    (steps : List TraceStep) : Follows m run (displayTrace run r name plain steps) := by
  unfold displayTrace
  grind

namespace CommandLine

/-- A reference that may be missing is followed, or else what stands for it. -/
@[grind ←] theorem follows_loadOr (ref : Option String) {otherwise : Run Value}
    (ho : Follows m run otherwise) : Follows m run (loadOr run ref otherwise) := by
  unfold loadOr
  grind

@[grind ←] instance Request.follows_resolver (r : Request) :
    Follows m run (Request.resolver run r) := by
  refine (Settings.follows_resolve _ _).bind fun settings =>
    (Follows.mapM (fun text => Reference.follows_load text) _).bind fun contexts =>
    (follows_loadOr _ Closure.follows_emptyNamespace).bind fun outer =>
    (follows_loadOr _ (Reference.follows_kernel _)).bind fun kernel => ?_
  exact (Follows.newFunction fun _ => rfl).bind fun body => (Closure.follows_make _ _).bind
    fun made => (Closure.follows_toValue _).bind fun closure => Resolver.follows_made _ closure _

@[grind ←] instance Request.follows_perform (r : Request) :
    Follows m run (Request.perform run r) := by
  unfold Request.perform
  grind

@[grind ←] instance follows_perform (args : List String) : Follows m run (perform run args) := by
  unfold perform
  grind

end CommandLine

namespace Report

@[grind ←] instance follows_ofArranged (entry : Group × Value) :
    Follows m run (ofArranged run entry) := by
  unfold ofArranged
  grind

@[grind ←] instance follows_ofResolver (id : ResolverId) : Follows m run (ofResolver run id) :=
  .resolverAt_bind (fun _ _ => rfl) fun r => by grind

@[grind ←] instance follows_ofCapsule (id : CapsuleId) : Follows m run (ofCapsule run id) :=
  .capsuleAt_bind (fun _ _ => rfl) fun c => by grind

@[grind ←] instance follows_ofGroups (groups : List Group) (inner : List Value)
    (outer kernel : Value) : Follows m run (ofGroups run groups inner outer kernel) := by
  unfold ofGroups
  grind

@[grind ←] instance follows_ofStep (s : TraceStep) : Follows m run (ofStep run s) := by
  unfold ofStep
  grind

@[grind ←] instance follows_ofResolved (s : Settings.Resolved) :
    Follows m run (ofResolved run s) := by
  refine (follows_ofValue _).bind fun name => (follows_ofValue _).bind fun default =>
    (follows_ofValue _).bind fun profile => ?_
  exact (Run.follows_reportAttempt (by grind)).bind fun kernel =>
    (Run.follows_reportAttempt (by grind)).bind fun variant => .pure _

@[grind ←] instance follows_ofTable (table : Members) : Follows m run (ofTable run table) := by
  unfold ofTable
  grind

@[grind ←] instance follows_ofEvent (e : Event) : Follows m run (ofEvent run e) := by
  unfold ofEvent
  grind

end Report

namespace Build

@[simp] theorem isOpen_view (w : World) (c : ClassRef) : isOpen (m.view w) c = isOpen w c := by
  cases c <;> simp [isOpen]

/-- To make a function follows, for the deaf if its code is discreet. -/
theorem follows_function (name : String) {code : Code} (hc : m = .deaf → code.discreet = true) :
    Follows m run (function name code) := .newFunction hc

/-- A traced body asks for no record. -/
@[grind ←] instance follows_bodyFunction (name label : String) (b : Body) :
    Follows m run (function name (.body label b)) := follows_function name fun _ => rfl

@[grind ←] instance follows_markFunction (name label : String) :
    Follows m run (function name (.mark label)) := follows_function name fun _ => rfl

@[grind ←] instance follows_descriptor (label : String) (get : Option Body) (set delete : Bool) :
    Follows m run (descriptor label get set delete) := by
  exact .newObject fun _ => rfl

@[grind ←] instance follows_member (label : String) (firstName : Option String) (d : MemberDecl) :
    Follows m run (member run label firstName d) := by
  unfold member
  extract_lets mark
  have mark_follows (raw : Value) : Follows m run (mark raw) := by
    simp only [mark]
    grind
  clear_value mark
  split <;> grind

@[grind ←] instance follows_members (className : String) (ms : List MemberDecl) :
    Follows m run (members run className ms) := by
  unfold members
  grind

@[grind ←] instance follows_hostClass (direction : Direction) :
    Follows m run (hostClass direction) := by
  refine (Follows.mapM (fun _ => (Follows.newFunction fun _ => rfl).bind fun _ => .pure _) _).bind
    fun methods => (Follows.reading (by simp)).bind fun i => ?_
  exact (Follows.change (fun w => .cls w _) (fun _ => rfl) (fun _ => by cases m <;> rfl)
    fun _ _ h => h.of_eq rfl rfl).bind fun _ => .pure _

@[grind ←] instance follows_partialLayers (depth : Nat) (fn : Value) :
    Follows m run (partialLayers depth fn) := by
  induction depth with
  | zero => exact .pure fn
  | succ depth ih => exact ih.bind fun inner => .newObject fun _ => rfl

/-- What is deferred is made by the runner; deaf to events, it must not ask for their record. -/
theorem follows_deferred : ∀ d : Deferred, (m = .deaf → d.discreet = true) →
    Follows m run (deferred run d)
  | .partialCall of depth, h =>
      (follows_deferred of (by simpa [Deferred.discreet] using h)).bind fun fn =>
        follows_partialLayers depth fn
  | .append, _ =>
      (Follows.reading (by simp)).bind fun i => (Follows.growing (by simp)).bind fun _ => .pure _
  | .plain .., h => (Follows.newFunction (by simpa [Deferred.discreet, Code.discreet] using h)).map
  | .method _ _ _ self, h =>
      (Follows.newFunction (by simpa [Deferred.discreet, Code.discreet] using h)).bind fun f =>
        self.follows_eval.bind fun _ => .pure _
  | .capturing _ _ script _ content, h => by
      have hs : m = .deaf → discreetScript script = true := by simpa [Deferred.discreet] using h
      cases content with
      | none => exact (Follows.newFunction hs).map
      | some e => exact e.follows_eval.map.bind fun cell => (Follows.newFunction hs).map
  | .callable _ script self, h => by
      have hs : m = .deaf → discreetScript script = true := by simpa [Deferred.discreet] using h
      cases self with
      | none => exact Follows.newObject hs
      | some e => exact e.follows_eval.bind fun _ => Follows.newObject hs
  | .builtin _, _ => .pure _
  | .capsule _, _ => by grind [deferred]
  | .closure _, _ => by grind [deferred]
  | .value e, _ => e.follows_eval

/-- To make a closure follows, for the deaf if what it defers is discreet. -/
theorem follows_closureValue {fn : Deferred} (h : m = .deaf → fn.discreet = true)
    (outer : Option Expr) (raw : Bool) : Follows m run (closureValue run fn outer raw) := by
  refine (follows_deferred fn h).bind fun f => ?_
  grind

end Build

namespace Session

@[grind ←] instance follows_valueOr (default : Value) (e : Option Expr) :
    Follows m run (valueOr default e) := by
  unfold valueOr
  grind

@[grind ←] instance follows_observer (o : Option ObserverDecl) : Follows m run (observer o) := by
  unfold observer
  grind

@[grind ←] instance follows_setup (o : Options) : Follows m run (setup o) := by
  unfold setup
  grind

@[grind ←] instance follows_keepHandle (keep : Option String) (v : Value) :
    Follows m run (keepHandle keep v) := by
  cases keep with
  | none => exact .pure ()
  | some name => exact .handles (by simp)

@[grind ←] instance follows_keepResolver (name : String) (id : ResolverId) :
    Follows m run (keepResolver name id) :=
  .keptResolvers (by simp)

@[grind ←] instance follows_keepCapsule (name : String) (id : CapsuleId) :
    Follows m run (keepCapsule name id) :=
  .keptCapsules (by simp)

@[grind ←] instance follows_makeResolver (choice : ResolverChoice) (closure : Value) (o : Options) :
    Follows m run (makeResolver run choice closure o) := by
  unfold makeResolver
  grind

@[grind ←] instance follows_answer [m.Tells] (id : ResolverId) (name : String) (q : Query) :
    Follows m run (answer run id name q) := by
  cases q with
  | resolve =>
      exact ⟨.resolverAt_bind id fun r o ho =>
        (Resolver.twin_resolve ho name).bind fun v _ => (Report.follows_ofValue v).twin⟩
  | respondsTo =>
      exact ⟨.resolverAt_bind id fun r o ho => (Resolver.twin_respondsTo ho name).map _⟩
  | member =>
      exact ⟨.resolverAt_bind id fun r o ho =>
        (Resolver.twin_member ho name).bind fun v _ => (Report.follows_ofValue v).twin⟩
  | methodHandle keep =>
      exact ⟨.resolverAt_bind id fun r o ho => (Resolver.twin_methodHandle ho name).bind fun v _ =>
        (follows_keepHandle keep v).twin.bind fun _ _ => (Report.follows_ofValue v).twin⟩
  | call args named =>
      exact ⟨.resolverAt_bind id fun r o ho => (Expr.follows_evalList args).twin.bind fun args _ =>
        (Expr.follows_evalEntries named).twin.bind fun named _ =>
        (Resolver.twin_methodHandle ho name).bind fun handle _ =>
        (Twin.task _).bind fun v _ => (Report.follows_ofValue v).twin⟩
  | run =>
      exact ⟨.resolverAt_bind id fun r o ho =>
        (Resolver.twin_evaluate ho id).bind fun v _ => (Report.follows_ofValue v).twin⟩
  | info => exact .resolverAt_bind (fun _ _ => rfl) fun r => Report.follows_ofResolver id
  | explain =>
      refine .resolverAt_bind (fun r o => ?_) fun r => by grind
      simp only [Resolver.explain_observer]
  | rows =>
      refine .resolverAt_bind (fun r o => ?_) fun r => by grind
      simp only [Resolver.explain_observer]
  | display plain =>
      refine .resolverAt_bind (fun r o => ?_) fun r => by grind
      simp only [Resolver.explain_observer]
      rfl

@[grind ←] instance follows_makeCapsule (closure : Option Expr) (o : Options) :
    Follows m run (makeCapsule run closure o) := by
  unfold makeCapsule
  grind

@[grind ←] instance follows_useCapsule [m.Tells] (id : CapsuleId) (use : CapsuleUse)
    (inner : List Value) (direction : Value) :
    Follows m run (useCapsule run id use inner direction) := by
  cases use with
  | call =>
      exact ⟨.capsuleAt_bind id fun c o ho =>
        (Capsule.twin_call ho inner direction).bind fun v _ => (Report.follows_ofValue v).twin⟩
  | evaluation e =>
      exact ⟨.capsuleAt_bind id fun c o ho =>
        (Capsule.twin_evaluate ho e inner direction).bind fun v _ =>
        (follows_keepHandle (keptName e) v).twin.bind fun _ _ => (Report.follows_ofValue v).twin⟩
  | resolver visibility keep =>
      exact ⟨.capsuleAt_bind id fun c o ho => (follows_valueOr .none visibility).twin.bind
        fun chosen _ => (Capsule.twin_resolver ho inner direction chosen).bind fun made _ =>
        (follows_keepResolver keep made).twin.bind fun _ _ => (Report.follows_ofResolver made).twin⟩

@[grind ←] instance follows_inHost (target : Value) (e : Evaluation)
    (closure direction : Option Expr) : Follows m run (inHost run target e closure direction) := by
  unfold inHost
  grind [Follows.task run]

@[grind ←] instance follows_askStrategy (s : Strategy) (q : StrategyQuery) :
    Follows m run (askStrategy run s q) := by
  unfold askStrategy
  grind

@[grind ←] instance follows_registryNames : Follows m run (registryNames) := by
  unfold registryNames
  grind

@[grind ←] instance follows_useRegistry (u : RegistryUse) : Follows m run (useRegistry u) := by
  cases u with
  | register name className visibility strategy =>
    exact (Follows.registry (by simp)).bind fun _ => .pure _
  | reload points => exact (Follows.registry (by simp)).bind fun _ => by grind
  | _ => grind [useRegistry]

@[grind ←] instance follows_emission [m.Tells] (o : Option Observer) (e : Emission) :
    Follows m run (emission run o e) := by
  unfold emission
  grind

@[grind ←] instance follows_reportConfig (c : Settings.Config) (profiles : List Value) :
    Follows m run (reportConfig run c profiles) := by
  unfold reportConfig
  grind

@[grind ←] instance follows_findSettings (start : Option String) :
    Follows m run (findSettings start) := by
  unfold findSettings
  grind

/-- A command follows its runner. Deaf to events, it must not ask for their record. -/
theorem follows_command [m.Tells] (c : Command) (h : m = .deaf → c.discreet = true) :
    Follows m run (execute run c) := by
  cases c with
  | direction source isWord inner outer kernel =>
    refine source.follows_eval.bind fun v => ?_
    extract_lets rest
    have rest_follows (groups : List Group) : Follows m run (rest groups) := by
      simp only [rest]
      grind
    clear_value rest
    grind
  | events =>
    have all : m = .all := by
      cases m with
      | all => rfl
      | deaf => simp [Command.discreet] at h
      | mute => exact absurd rfl (Hearing.Tells.not_mute (m := .mute))
    have steps : execute run .events = takeEvents >>= fun events =>
        Report.list <$> events.reverse.mapM (Report.ofEvent run) := by
      simp only [execute, takeEvents, Run.reading, bind_map_left, bind_assoc, pure_bind]
    rw [steps]
    exact Follows.bind ⟨.take all⟩ fun events => by grind
  | closure id fn outer raw wrap =>
    refine (Build.follows_closureValue (by simpa [Command.discreet] using h) _ _).bind
      fun made => ?_
    extract_lets report keep
    have report_follows (outer : Value) : Follows m run (report outer) := by
      simp only [report]
      grind
    have keep_follows (kept : Option KeptClosure) : Follows m run (keep kept) := by
      refine Follows.bind ?_ fun v =>
        (Follows.closures (by simp)).bind fun _ => .get_bind (by simp) fun w => ?_
      · cases kept <;> grind
      · clear_value report
        split <;> grind
    clear_value keep
    split <;> grind
  | setField target name value =>
    exact (Expr.follows_eval _).bind fun v => (Expr.follows_eval _).bind fun x =>
      (Follows.mapAttrs v _).bind fun _ => .pure _
  | _ => grind [execute, Follows.task run]

/-- A command follows its runner. -/
@[grind ←] instance follows_execute (c : Command) : Follows .all run (execute run c) :=
  follows_command c nofun

end Session

namespace Interpreter

@[grind ←] instance follows_firstArg (args : List Value) : Follows m run (firstArg args) := by
  unfold firstArg
  grind

@[grind ←] instance follows_runBody (label : String) (b : Body) (args : List Value)
    (named : Members) : Follows m run (runBody run label b args named) := by
  unfold runBody
  grind

@[grind ←] instance follows_runOtherwise (name : String) (o : Otherwise) :
    Follows m run (runOtherwise name o) := by
  unfold runOtherwise
  grind

@[grind ←] instance follows_callHook (label : String) (h : Hook) (args : List Value) :
    Follows m run (callHook run label h args) := by
  unfold callHook
  grind

/-- An action follows its runner. Deaf to events, it must not ask for their record. -/
theorem follows_action [m.Tells] (scope : Value) : ∀ a : Action, (m = .deaf → a.discreet = true) →
    Follows m run (act run scope a)
  | .attempt a, h =>
      Run.follows_reportAttempt (follows_action scope a (by simpa [Action.discreet] using h))
  | .stash _, _ => (Follows.scopes (by simp)).bind fun _ => .pure _
  | .call name args named, _ =>
      (Attribute.follows_get _ _).bind fun f => (Expr.follows_evalList _).bind fun args =>
        (Expr.follows_evalEntries _).bind fun named => (Follows.task run _).bind fun v =>
          Report.follows_ofValue v
  | .get _, _ => by grind [act]
  | .has _, _ => by grind [act]
  | .default .., _ => by grind [act]
  | .set .., _ => by grind [act]
  | .delete _, _ => by grind [act]
  | .dir, _ => by grind [act]
  | .text, _ => by grind [act]
  | .isCurrent, _ => by grind [act]
  | .resolver, _ => by grind [act]
  | .const _, _ => by grind [act]
  | .raise .., _ => by grind [act]
  | .helper _, _ => by grind [act]
  | .perform c, h => Session.follows_command c (by simpa [Action.discreet] using h)

/-- An action follows its runner. -/
@[grind ←] instance follows_act (scope : Value) (a : Action) : Follows .all run (act run scope a) :=
  follows_action scope a nofun

/-- A script follows its runner. Deaf to events, it must not ask for their record. -/
theorem follows_script [m.Tells] (scope : Value) (script : List Action)
    (h : m = .deaf → discreetScript script = true) :
    Follows m run (script.mapM (act run scope)) := by
  induction script with
  | nil => exact .pure []
  | cons a rest ih =>
    simp only [discreetScript, Bool.and_eq_true] at h
    rw [List.mapM_cons]
    exact (follows_action scope a fun hm => (h hm).1).bind fun r =>
      (ih fun hm => (h hm).2).bind fun rs => .pure (r :: rs)

/-- A **script** follows, for the deaf if it is discreet. -/
theorem follows_callScript [m.Tells] {script : List Action}
    (h : m = .deaf → discreetScript script = true) (args : List Value) :
    Follows m run (callScript run script args) := by
  unfold callScript
  split
  · exact .raise _
  · exact (follows_script _ script h).bind fun _ => .pure _

@[grind ←] instance follows_hostArguments (shown : String) (method : HostMethod)
    (args : List Value) (named : Members) :
    Follows m run (hostArguments shown method args named) := by
  unfold hostArguments
  grind

@[grind ←] instance follows_callHost [m.Tells] (shown : String) (method : HostMethod)
    (d : Direction) (args : List Value) (named : Members) :
    Follows m run (callHost run shown method d args named) := by
  unfold callHost
  grind

@[grind ←] instance follows_descriptorParts (v : Value) : Follows m run (descriptorParts v) := by
  unfold descriptorParts
  grind

@[grind ←] instance follows_callCapsule [m.Tells] (id : CapsuleId) (args : List Value)
    (named : Members) : Follows m run (callCapsule run id args named) :=
  ⟨.capsuleAt_bind id fun _ _ ho => Capsule.twin_call ho args _⟩

/-- What is done with the **resolver of a scope** takes the same steps if it does for resolvers that
differ in watchers. -/
theorem twin_scopeResolver_bind {β : Type} (v : Value) {f : Resolver → Run β}
    (h : ∀ (r : Resolver) (o : Option Observer), m.ear r.observer = m.ear o →
      Twin m run (f r) (f { r with observer := o })) :
    Twin m run (scopeResolver v >>= f) (scopeResolver v >>= f) := by
  cases v with
  | object i =>
    simp only [scopeResolver, bind_assoc]
    refine (Follows.reading (by simp)).twin.bind fun found _ => ?_
    split
    · exact .resolverAt_bind _ h
    · exact .throw _
  | _ => exact .throw _

/-- A function of the library follows its runner; the script of an object is as discreet as the
world. -/
@[grind ←] instance follows_callLibrary [m.Tells] (f : LibraryFunction) (args : List Value)
    (named : Members) : Follows m run (callLibrary run f args named) := by
  unfold callLibrary
  split
  case h_1 scope name =>
    exact ⟨twin_scopeResolver_bind scope fun r o ho => Resolver.twin_member ho name⟩
  case h_4 scope =>
    exact ⟨twin_scopeResolver_bind scope fun r o _ =>
      ((Resolver.follows_scopeNames r).bind fun names => .pure _).twin⟩
  case h_11 i rest =>
    refine .reading_bind (by simp) fun w hw => ?_
    split
    · next script found =>
      refine follows_callScript (fun hm => ?_) rest
      obtain ⟨o, ho, hp⟩ := Option.map_eq_some_iff.1 found
      have key := (hw hm).objects o (Array.mem_of_getElem? ho)
      rwa [hp] at key
    · exact .raise _
  all_goals grind [Follows.task run]

/-- A function of the world follows its runner; its script is as discreet as the world. -/
@[grind ←] instance follows_callFunction [m.Tells] (i : FunctionId) (args : List Value)
    (named : Members) : Follows m run (callFunction run i args named) := by
  refine .reading_bind (by simp) fun w hw => ?_
  cases found : w.functions[i]? with
  | none => exact .raise _
  | some f =>
    cases code : f.code with
    | script script =>
      simp only [code]
      refine follows_callScript (fun hm => ?_) args
      have key := (hw hm).functions f (Array.mem_of_getElem? found)
      rwa [code] at key
    | _ => grind [Follows.task run]

@[grind ←] instance follows_takenOver (c : ClassRef) (starts : Bool) (args : List Value) :
    Follows m run (takenOver run c starts args) := by
  unfold takenOver
  grind

@[grind ←] instance follows_newInstance (c : ClassRef) (args : List Value) (named : Members) :
    Follows m run (newInstance run c args named) := by
  refine .get_bind (fun w => by simp) fun w => ?_
  have make (v : Value) : Follows m run (Run.newObject
      ⟨none, c, if Build.isOpen w c then some [] else none, [], carrying v⟩) :=
    .newObject fun _ => by cases v <;> rfl
  grind [Follows.task run]

@[grind ←] instance follows_tableItem (entries : Members) (key : Value) :
    Follows m run (tableItem entries key) := by
  unfold tableItem
  grind

@[grind ←] instance follows_callNativeMethod (name : String) (self : Value) (args : List Value) :
    Follows m run (callNativeMethod name self args) := by
  unfold callNativeMethod
  split
  · exact (Follows.growing (by simp)).bind fun _ => .pure _
  all_goals grind

@[grind ←] instance follows_notCallable {α : Type} (v : Value) :
    Follows m run (Interpreter.notCallable v : Run α) := by
  unfold Interpreter.notCallable
  grind

@[grind ←] instance follows_callByClass (v : Value) (args : List Value) (named : Members) :
    Follows m run (callByClass run v args named) := by
  unfold callByClass
  grind [Follows.task run]

@[grind ←] instance follows_call [m.Tells] (f : Value) (args : List Value) (named : Members) :
    Follows m run (call run f args named) := by
  unfold call
  grind [Follows.task run]

@[grind ←] instance follows_perform [m.Tells] (t : Task) : Follows m run (perform run t) := by
  unfold perform
  grind

/-- A task **keeps**, within any budget, what every change keeps. -/
theorem runner_keeps {P : World → Prop} (h : Kept P) (n : Nat) (t : Task) {w : World} (hw : P w) :
    P ((runner n t).outcome w).2 := by
  induction n generalizing t w with
  | zero => exact hw
  | succ n ih => exact h.course ((follows_perform t).goes w) (fun t _ => ih t) hw

end Interpreter

/-- A run that follows the interpreter **keeps** what every change keeps. -/
theorem Follows.keeps {n : Nat} {α : Type} {x : Run α} (hx : Follows .all (Interpreter.runner n) x)
    {P : World → Prop} (h : Kept P) {w : World} (hw : P w) : P (x.outcome w).2 :=
  h.course (hx.goes w) (fun t _ => Interpreter.runner_keeps h n t) hw

end OrderedScope
