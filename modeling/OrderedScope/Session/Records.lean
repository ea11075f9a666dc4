import OrderedScope.Capsule
import OrderedScope.CommandLine.Outcome
import OrderedScope.Display
import OrderedScope.Reporting

/-!
# Records of a Session

What a session reports of the things it makes: resolvers, capsules, directions, explanations,
settings and events, each as a record with fixed fields.
-/

namespace OrderedScope.Report

/-- A context beside the name of its group. -/
def ofArranged (run : Runner) (entry : Group × Value) : Run Report := do
  pure (list [str entry.1.name, ← ofValue run entry.2])

/-- A **resolver**. -/
def ofResolver (run : Runner) (id : ResolverId) : Run Report := do
  let r ← resolverAt id
  let inner ← ofValues run r.inner
  let outer ← ofValue run r.outer
  let kernel ← ofValue run r.kernel
  let arranged ← r.contexts.mapM (ofArranged run)
  let flattened ← ofValues run (r.contexts.map (·.2))
  pure (record [("repr", str (Label.resolverText r)), ("visibility", str r.variant.visibility),
    ("direction", str r.direction.name), ("inner", inner), ("outer", outer), ("kernel", kernel),
    ("arranged", list arranged), ("flattened", flattened),
    ("introspector", str r.variant.strategy.text)])

/-- A **capsule**. -/
def ofCapsule (run : Runner) (id : CapsuleId) : Run Report := do
  let c ← capsuleAt id
  let shown ← Label.standardText run [] (.capsule id)
  pure (record [("repr", str shown), ("direction", str (← c.direction.directionName run)),
    ("visibility", str c.visibility), ("outer", ← ofValue run (← c.closure.outer run))])

/-- An order of groups, with some contexts arranged by it. -/
def ofGroups (run : Runner) (groups : List Group) (inner : List Value) (outer kernel : Value) :
    Run Report := do
  let arranged ← (arrange groups inner outer kernel).mapM (ofArranged run)
  let flattened ← ofValues run (flatten groups inner outer kernel)
  let name := lettersOf groups
  let place := (Direction.ofGroups? groups).elim null fun d => int d.index
  pure (record [("name", str name), ("str", str name), ("repr", str ("Direction(" ++ name ++ ")")),
    ("valid", bool (Direction.ofGroups? groups).isSome), ("len", int groups.length),
    ("groups", texts (groups.map Group.title)),
    ("letters", texts (groups.map fun g => g.letter.toString)), ("index", place),
    ("arrange", list arranged), ("flatten", flattened)])

/-- A **step** of an explanation. -/
def ofStep (run : Runner) (s : TraceStep) : Run Report := do
  let context ← ofValue run s.context
  let label ← ofValue run (← describe run s.context)
  pure (record [("position", int s.position), ("group", str s.group.name), ("context", context),
    ("label", label), ("matched", bool s.matched), ("winner", bool s.winner)])

/-- A **row** of an explanation. -/
def ofRow (r : Row) : Report :=
  record [("position", int r.position), ("group", str r.group.name), ("context", str r.label),
    ("matched", bool r.matched), ("winner", bool r.winner)]

/-- The settings of a profile, with what they refer to. -/
def ofResolved (run : Runner) (s : Settings.Resolved) : Run Report := do
  let name ← ofValue run s.projectName
  let default ← ofValue run s.defaultProfile
  let profile ← ofValue run s.profile
  let kernel ← Run.reportAttempt run do ofValue run (← Reference.kernel run (some s.kernel))
  let variant ← Run.reportAttempt run do
    pure (str (← requireVariant run (.str s.visibility)).className)
  pure (record [("project", record [("name", name), ("default_profile", default)]),
    ("profile_name", profile), ("direction", str s.direction.name),
    ("visibility", str s.visibility), ("kernel_ref", str s.kernel), ("kernel", kernel),
    ("trigger_class", variant)])

/-- A table of settings. -/
def ofTable (run : Runner) (m : Members) : Run Report := ofValue run (.dict m)

/-- An **event**. -/
def ofEvent (run : Runner) (e : Event) : Run Report := do
  let payload ← e.payload.mapM fun (name, v) => do pure (name, ← ofValue run v)
  pure (record [("kind", str e.kind.name), ("name", optional e.name), ("payload", record payload)])

/-- The outcome of running the program. -/
def ofOutcome (o : CommandLine.Outcome) : Report :=
  record [("exit", int o.exit), ("stdout", str o.output), ("stderr", str o.errors)]

end OrderedScope.Report
