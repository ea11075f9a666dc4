import OrderedScope.Resolution
import OrderedScope.Settings.Layers
import OrderedScope.Reference

/-!
# Capsules

A capsule keeps one closure with a default direction, a default visibility, a kernel and an
observer, and makes a fresh resolver for each use. Its closure is wrapped once, when the capsule is
made, so the outer context stays the same from use to use. A value that only says of itself that it
is a closure is kept as it is, and asked again at each use; so is a direction that only equals one.
-/

namespace OrderedScope

/-- The name of the visibility of an evaluation. -/
def Evaluation.visibility : Evaluation → String
  | .evaluate | .publicMethod .. => "public"
  | .evaluatePrivate | .privateMethod .. => "private"

/-- Performs an evaluation with a resolver: runs its closure, or asks it for a handle. -/
def Evaluation.perform (run : Runner) (id : ResolverId) : Evaluation → Run Value
  | .evaluate | .evaluatePrivate => do (← resolverAt id).evaluate run id
  | .publicMethod name _ | .privateMethod name _ => do (← resolverAt id).methodHandle run name

/-- **Evaluates** with a resolver of the evaluation's own visibility. -/
def Evaluation.inContexts (run : Runner) (e : Evaluation) (closure : Value) (s : Setup) :
    Run Value := do
  e.perform run (← Resolver.ofVisibility run (.str e.visibility) closure s)

namespace Capsule

/-- **Makes** a capsule: the visibility must be known before the closure is looked at. -/
def make (run : Runner) (closure visibility : Value) (s : Setup) : Run CapsuleId := do
  match closure with
  | .none => Run.raise .missingClosure
  | _ =>
    let _ ← requireVariant run visibility
    let c ← Closure.wrap run closure
    let d ← Direction.accept run s.direction
    let shown ← visibility.plainText run
    let id ← Run.reading (·.capsules.size)
    modify fun w =>
      { w with capsules := w.capsules.push ⟨c, d, shown, s.kernel, s.observer⟩ }
    pure id

/-- Makes a capsule by the settings of a profile. -/
def ofSettings (run : Runner) (closure profile : Value) (start : Option (List String))
    (observer : Option Observer) : Run CapsuleId := do
  let settings ← Settings.resolve run profile start
  let shown ← settings.profile.plainText run
  Run.log .debug ("Isolator from config (profile=" ++ shown ++ ", direction="
    ++ settings.direction.name ++ ", visibility=" ++ settings.visibility ++ ")")
  let kernel ← Reference.kernel run (some settings.kernel)
  make run closure (.str settings.visibility)
    ⟨[], settings.direction.value, kernel, observer⟩

/-- A fresh **resolver** for the closure of a capsule. Without a direction the default one is taken,
and without a visibility, or with an empty one, the default one. -/
def resolver (run : Runner) (c : Capsule) (inner : List Value) (direction visibility : Value) :
    Run ResolverId := do
  let chosen := if ← visibility.truthy run then visibility else .str c.visibility
  let direction := match direction with
    | .none => c.direction
    | d => d
  let variant ← requireVariant run chosen
  Resolver.ofClosure run variant (← c.closure.again run)
    ⟨inner, direction, c.kernel, c.observer⟩

/-- Runs the closure of a capsule with its default visibility. -/
def call (run : Runner) (c : Capsule) (inner : List Value) (direction : Value) : Run Value := do
  let id ← c.resolver run inner direction .none
  (← resolverAt id).evaluate run id

/-- Evaluates the closure of a capsule. -/
def evaluate (run : Runner) (c : Capsule) (e : Evaluation) (inner : List Value)
    (direction : Value) : Run Value := do
  e.perform run (← c.resolver run inner direction (.str e.visibility))

end Capsule

/-- The capsule at a place of the world. -/
def capsuleAt (id : CapsuleId) : Run Capsule := do
  ((← Run.reading (·.capsules))[id]?).elim (Run.raise (.noKey (toString id))) pure

end OrderedScope
