import OrderedScope.Build
import OrderedScope.Kernel
import OrderedScope.Session.Records
import OrderedScope.Visible

/-!
# Commands of a Session

What each command does, and what it reports. Results are kept under a name where the command says
so; nothing is kept when a command fails.
-/

namespace OrderedScope.Session

/-! ### Arguments -/

/-- The value of an optional expression, or a default. -/
def valueOr (default : Value) (e : Option Expr) : Run Value := e.elim (pure default) Expr.eval

/-- An observer, as it is described. -/
def observer : Option ObserverDecl → Run (Option Observer)
  | none => pure none
  | some .record => pure (some .record)
  | some (.raise kind text) => pure (some (.raise (.raised kind text)))
  | some (.delete target name) => do pure (some (.delete (← target.eval) name))

/-- The options of a resolver. Without a direction it is the first one. -/
def setup (o : Options) : Run Setup := do
  let inner ← Expr.evalList o.inner
  let direction ← valueOr Direction.iok.value o.direction
  let kernel ← valueOr .none o.kernel
  pure ⟨inner, direction, kernel, ← observer o.observer⟩

/-- Keeps a value for later calls, if a name for it is given. -/
def keepHandle (keep : Option String) (v : Value) : Run Unit :=
  match keep with
  | none => pure ()
  | some name => modify fun w => { w with handles := w.handles.put name v }

/-- Keeps a resolver. -/
def keepResolver (name : String) (id : ResolverId) : Run Unit :=
  modify fun w => { w with keptResolvers := (name, id) :: w.keptResolvers }

/-- Keeps a capsule. -/
def keepCapsule (name : String) (id : CapsuleId) : Run Unit :=
  modify fun w => { w with keptCapsules := (name, id) :: w.keptCapsules }

/-- The name under which an evaluation keeps its result. -/
def keptName : Evaluation → Option String
  | .publicMethod _ keep | .privateMethod _ keep => keep
  | .evaluate | .evaluatePrivate => none

/-- A path as it is given for a start. -/
def startOf (start : Option String) : Option (List String) := start.map Build.pathParts

/-! ### Resolvers and capsules -/

/-- The error of making a resolver without a strategy. -/
def abstractError : Error :=
  .misuse .type "Can't instantiate abstract class Trigger with abstract method introspector"

/-- Makes a resolver. -/
def makeResolver (run : Runner) (choice : ResolverChoice) (closure : Value) (o : Options) :
    Run ResolverId := do
  let s ← setup o
  match choice with
  | .publicOne => Resolver.make run .publicOne closure s
  | .privateOne => Resolver.make run .privateOne closure s
  | .registered => do
    Resolver.ofVisibility run (← valueOr (.str "public") o.visibility) closure s
  | .abstract => Run.raise abstractError

/-- Answers a question to a resolver. -/
def answer (run : Runner) (id : ResolverId) (name : String) (q : Query) : Run Report := do
  let r ← resolverAt id
  match q with
  | .resolve => do Report.ofValue run (← r.resolve run name)
  | .respondsTo => Report.bool <$> r.respondsTo run name
  | .member => do Report.ofValue run (← r.member run name)
  | .methodHandle keep => do
    let handle ← r.methodHandle run name
    keepHandle keep handle
    Report.ofValue run handle
  | .call args named => do
    let args ← Expr.evalList args
    let named ← Expr.evalEntries named
    let handle ← r.methodHandle run name
    Report.ofValue run (← run (.call handle args named))
  | .run => do Report.ofValue run (← r.evaluate run id)
  | .info => Report.ofResolver run id
  | .explain => do Report.list <$> (← r.explain run name).mapM (Report.ofStep run)
  | .rows => do
    pure (.list ((← rowsOf run (← r.explain run name)).map Report.ofRow))
  | .display plain => do
    Report.str <$> displayTrace run r name plain (← r.explain run name)

/-- Makes a capsule. -/
def makeCapsule (run : Runner) (closure : Option Expr) (o : Options) : Run CapsuleId := do
  let closure ← valueOr .none closure
  let s ← setup o
  Capsule.make run closure (← valueOr (.str "public") o.visibility) s

/-- Uses a capsule. -/
def useCapsule (run : Runner) (id : CapsuleId) (use : CapsuleUse) (inner : List Value)
    (direction : Value) : Run Report := do
  let c ← capsuleAt id
  match use with
  | .call => do Report.ofValue run (← c.call run inner direction)
  | .evaluation e => do
    let v ← c.evaluate run e inner direction
    keepHandle (keptName e) v
    Report.ofValue run v
  | .resolver visibility keep => do
    let made ← c.resolver run inner direction (← valueOr .none visibility)
    keepResolver keep made
    Report.ofResolver run made

/-! ### Hosts -/

/-- The method of a host by which an evaluation is asked for. -/
def hostMethod : Evaluation → HostMethod
  | .evaluate => .evaluate
  | .evaluatePrivate => .evaluatePrivate
  | .publicMethod .. => .publicMethod
  | .privateMethod .. => .privateMethod

/-- The arguments of a host's method beside the closure and the direction. -/
def hostArgs : Evaluation → List Value
  | .evaluate | .evaluatePrivate => []
  | .publicMethod name _ | .privateMethod name _ => [.str name]

/-- Evaluates a closure in a host. -/
def inHost (run : Runner) (target : Value) (e : Evaluation) (closure direction : Option Expr) :
    Run Value := do
  let named (name : String) (e : Option Expr) : Run Members := do
    e.elim (pure []) fun e => do pure [(name, ← e.eval)]
  let closure ← named "closure" closure
  let direction ← named "direction" direction
  let method ← Attribute.get run target (hostMethod e).name
  run (.call method (hostArgs e) (closure ++ direction))

/-! ### Strategies -/

/-- The class name of a strategy. -/
def strategyName : Strategy → String
  | .dynamic _ => "DynamicIntrospector"
  | .static _ => "StaticIntrospector"
  | .fallback .. => "FallbackIntrospector"

/-- Names without those of the attribute protocol, in order. -/
def shownNames (names : List String) : Report :=
  Report.texts (sortNames (names.filter fun name => !isProtocolName name))

/-- Answers a question to a strategy. -/
def askStrategy (run : Runner) (s : Strategy) : StrategyQuery → Run Report
  | .respondsTo target name => do Report.bool <$> s.respondsTo run (← target.eval) name
  | .lookup target name => do
    match ← s.lookup run (← target.eval) name with
    | some v => Report.ofValue run v
    | none => pure .missing
  | .member target name => do Report.ofValue run (← s.member run (← target.eval) name)
  | .names target => do
    match s with
    | .static _ => do shownNames <$> Attribute.tableNames run (← target.eval)
    | _ => Run.raise (.noAttribute (strategyName s) "names")
  | .text => pure (.list [.str s.text, .bool s.includesRestricted, .bool true])

/-! ### The registry -/

/-- The names of the registry, once its extension points have been scanned, and the points that
were loaded for that. -/
def registryNames : Run (List String × List String) := do
  let loads ← loadRegistry
  pure (← Run.reading (·.registry.names), loads)

/-- Uses the registry. -/
def useRegistry : RegistryUse → Run Report
  | .types => do pure (Report.texts (← registryNames).1)
  | .get name => do
    pure (Report.optional ((← findVariant (← name.eval)).map (·.className)))
  | .register name className visibility strategy => do
    modify fun w =>
      { w with registry := w.registry.register name ⟨className, visibility, strategy⟩ }
    pure (.bool true)
  | .reload points => do
    modify fun w => { w with registry := { w.registry with loaded := false, points := .ok points } }
    let (names, loads) ← registryNames
    let (again, more) ← registryNames
    pure (.list [Report.texts names, Report.texts again,
      Report.texts (("group:" ++ Registry.pointGroup) :: loads ++ more)])

/-! ### Events -/

/-- Emits one event. -/
def emission (run : Runner) (o : Option Observer) : Emission → Run Unit
  | .resolved name context group position extra => do
    emit run o (.resolved name (← context.eval) (.str group) (← position.eval)
      (← Expr.evalEntries extra))
  | .unresolved name extra => do emit run o (.unresolved name (← Expr.evalEntries extra))
  | .evaluated extra => do emit run o (.evaluated (← Expr.evalEntries extra))

/-! ### Settings -/

/-- The report of a configuration and of some of its profiles. -/
def reportConfig (run : Runner) (c : Settings.Config) (profiles : List Value) : Run Report := do
  let defaults ← Report.ofTable run c.defaults
  let own ← c.profiles.mapM fun (name, m) => do pure (name, ← Report.ofTable run m)
  let resolved ← profiles.mapM fun profile =>
    Run.reportAttempt run do Report.ofResolved run (← c.resolve run profile)
  pure (.record [("defaults", defaults), ("profiles", .record own), ("resolve", .list resolved)])

/-- The place of the settings file for a start. -/
def findSettings (start : Option String) : Run Report := do
  let found ← Run.reading fun w => Settings.directory? w.files (startOf start)
  pure (Report.optional (found.map fun d => Settings.pathText (d ++ [Settings.fileName])))

/-! ### All commands -/

/-- **Executes** a command. -/
def execute (run : Runner) : Command → Run Report
  | .coerce e => do
    let d ← Direction.coerce run (← e.eval)
    pure (.list [.str d.name, Report.texts (d.groups.map Group.name)])
  | .direction source isWord inner outer kernel => do
    let groups ← match ← source.eval, isWord with
      | .direction entries, _ => (Value.groups? entries).elim (throw .exhausted) pure
      | .str s, true =>
        match Group.ofLetters? s with
        | some groups => pure groups
        | none => Run.raise (.badDirection (.str s) (Text.quote s))
      | v, _ => do pure (← Direction.coerce run v).groups
    Report.ofGroups run groups (← Expr.evalList inner) (← outer.eval) (← kernel.eval)
  | .directions plain => Report.str <$> displayDirections plain
  | .merge base override => do
    let base ← Settings.tableOf "keys" (← base.eval)
    let override ← Settings.tableOf "keys" (← override.eval)
    pure (.list [Report.plain (.dict (Settings.overlay base override)), .bool true])
  | .settings main local? profiles => do
    let c ← Settings.Config.ofDocuments (← main.eval) (← valueOr .none local?)
    reportConfig run c (← Expr.evalList profiles)
  | .findSettings start => findSettings start
  | .loadSettings start profile => do
    let c ← Settings.load (startOf start)
    let names := (c.profiles.map (·.1)).mergeSort fun a b => decide (a ≤ b)
    let resolved ← Report.ofResolved run (← c.resolve run (← profile.eval))
    pure (.record [("profiles", Report.texts names), ("resolved", resolved)])
  | .resolveSettings start profile => do
    Report.ofResolved run (← Settings.resolve run (← profile.eval) (startOf start))
  | .capsuleFromSettings closure start profile o keep => do
    let closure ← closure.eval
    let o ← observer o
    let id ← Capsule.ofSettings run closure (← profile.eval) (startOf start) o
    keepCapsule keep id
    Report.ofCapsule run id
  | .commandLine argv => Report.ofOutcome <$> CommandLine.perform run argv
  | .reference text => do Report.ofValue run (← Reference.load run text)
  | .kernelReference text => do Report.ofValue run (← Reference.kernel run text)
  | .makeResolver choice closure o keep => do
    let id ← makeResolver run choice (← closure.eval) o
    keepResolver keep id
    Report.ofResolver run id
  | .query resolver name q => do
    match (← Run.reading (·.keptResolvers)).lookup resolver with
    | some id => answer run id name q
    | none => Run.raise (.noKey resolver)
  | .invoke handle args named => do
    let args ← Expr.evalList args
    let named ← Expr.evalEntries named
    Report.ofValue run (← run (.call (← (Expr.handle handle).eval) args named))
  | .events => do
    let events ← Run.reading (·.observed.reverse)
    modify fun w => { w with observed := [] }
    Report.list <$> events.mapM (Report.ofEvent run)
  | .evaluation closure e o => do
    let closure ← closure.eval
    let v ← e.inContexts run closure (← setup o)
    keepHandle (keptName e) v
    Report.ofValue run v
  | .makeCapsule closure o keep => do
    let id ← makeCapsule run closure o
    keepCapsule keep id
    Report.ofCapsule run id
  | .useCapsule capsule use inner direction => do
    match (← Run.reading (·.keptCapsules)).lookup capsule with
    | some id => do
      useCapsule run id use (← Expr.evalList inner) (← valueOr .none direction)
    | none => Run.raise (.noKey capsule)
  | .closure id fn outer raw wrap => do
    let made ← Build.closureValue run fn outer raw
    let kept ← if wrap then some <$> Closure.wrap run made else pure none
    let v ← kept.elim (pure made) KeptClosure.toValue
    modify fun w => { w with closures := w.closures.put id v }
    let outer ← match kept, Closure.parts? (← get) v with
      | some k, _ => k.outer run
      | none, some c => pure c.outer
      | none, none => Closure.inferOuter run v
    pure (.record [("outer", ← Report.ofValue run outer)])
  | .callClosure closure args named => do
    let closure ← closure.eval
    let args ← Expr.evalList args
    Report.ofValue run (← run (.call closure args (← Expr.evalEntries named)))
  | .host target e closure direction => do
    let v ← inHost run (← target.eval) e closure direction
    keepHandle (keptName e) v
    Report.ofValue run v
  | .hostClass direction => do
    let d ← Direction.coerce run (← valueOr Direction.iok.value direction)
    let c ← Build.hostClass d
    let shown ← Run.reading (·.className c)
    pure (.list [.str shown, .str shown, .direction d.name])
  | .strategy s q => askStrategy run s q
  | .overrides target name => do
    Report.bool <$> Attribute.overridesProtocol run (← target.eval) name
  | .describe target => do Report.ofValue run (← describe run (← target.eval))
  | .visible target restricted => do
    shownNames <$> visibleNames run (← target.eval) restricted
  | .markedMember className name => do
    let c ← required className (← Run.reading fun w => (w.findClass? className).map .cls)
    let raw ← required name ((← Run.reading (·.ownAttrs? c)).bind (·.find? name))
    Report.bool <$> Attribute.isMarked run raw
  | .marked target => do Report.bool <$> Attribute.isMarked run (← target.eval)
  | .restrictedName name => pure (.bool (isRestrictedName name))
  | .restrictMember m => do
    let raw ← Build.member run m.name none m
    Attribute.restrict run raw
    pure (.list [.bool true, .bool (← Attribute.isMarked run raw)])
  | .restrict target => do
    let raw ← target.eval
    Attribute.restrict run raw
    pure (.list [.bool true, .bool (← Attribute.isMarked run raw)])
  | .setAttr target name value => do
    let v ← target.eval
    Attribute.set run v name (← value.eval)
    pure .null
  | .deleteAttr target name => do
    Attribute.delete run (← target.eval) name
    pure .null
  | .getAttr target name => do
    Report.ofValue run (← Attribute.get run (← target.eval) name)
  | .setMember className m => do
    let c ← required className (← Run.reading fun w => (w.findClass? className).map .cls)
    let raw ← Build.member run (className ++ "." ++ m.name) none m
    Attribute.set run c m.name raw
    pure .null
  | .setField target name value => do
    let v ← target.eval
    let x ← value.eval
    modify fun w => w.mapAttrs v (·.put name x)
    pure .null
  | .raiseUnresolved name direction visibility =>
    Run.raise (.unresolved name direction visibility)
  | .ambientScope => do Report.ofValue run (← Expr.ambientScope.eval)
  | .registry use => useRegistry use
  | .emitter o calls => do
    let o ← observer o
    calls.forM (emission run o)
    pure (.bool o.isSome)

end OrderedScope.Session
