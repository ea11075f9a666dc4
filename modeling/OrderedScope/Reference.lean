import OrderedScope.Attribute.Access

/-!
# References

A reference names a module, or after a colon an attribute within a module; both are dotted. A dotted
module is registered under its whole name, or it is missing, and then the topmost missing part is
reported.
-/

namespace OrderedScope

/-- A **reference**: the parts of the name of a module and the path of an attribute within it. -/
structure Reference where
  module : String
  path : List String
deriving DecidableEq, Repr

namespace Reference

/-- The text before the last colon and the text after it, if there is a colon. -/
def splitLast? (cs : List Char) : Option (List Char × List Char) :=
  let back := cs.reverse
  match back.dropWhile (· != ':') with
  | [] => none
  | _ :: before => some (before.reverse, (back.takeWhile (· != ':')).reverse)

/-- The reference that a text spells. -/
def split (text : String) : Except Error Reference :=
  if text.isEmpty then .error .emptyReference
  else
    match splitLast? text.toList with
    | none => .ok ⟨text, []⟩
    | some (before, after) =>
      if before.isEmpty || after.isEmpty then .error (.malformedReference text)
      else .ok ⟨String.ofList before, (String.ofList after).splitOn "."⟩

/-- A dotted name, from its parts in reverse. -/
def dotted (parts : List String) : String := ".".intercalate parts.reverse

/-- The module whose name has the given parts, last part first. -/
def moduleOf (run : Runner) : List String → Run Value
  | [] => Run.raise (.noModule "" none)
  | part :: above => do
    let name := dotted (part :: above)
    match ← Run.reading (·.findModule? name) with
    | some i => pure (.module i)
    | none =>
      let parent := dotted above
      if parent.isEmpty then Run.raise (.noModule name none)
      else
        match ← Attribute.get? run (← moduleOf run above) "__path__" with
        | none => Run.raise (.noModule name (some parent))
        | some .none => Run.raise (.noModule name none)
        | some places => do
          let _ ← places.items
          Run.raise (.noModule name none)

/-- The module of a name; a name with a leading dot is relative to no module. -/
def moduleNamed (run : Runner) (name : String) : Run Value :=
  if name.startsWith "." then Run.raise (.relativeReference name)
  else moduleOf run (name.splitOn ".").reverse

/-- What a reference **refers to**: a module, or an attribute found from it step by step. -/
def follow (run : Runner) (r : Reference) : Run Value := do
  r.path.foldlM (Attribute.get run) (← moduleNamed run r.module)

/-- What the reference spelled by a text refers to. -/
def load (run : Runner) (text : String) : Run Value :=
  match split text with
  | .ok r => r.follow run
  | .error e => Run.raise e

/-- The name of the module that is the kernel where nothing else is said. -/
def kernelName : String := "builtins"

/-- The **kernel** that a text refers to; without a text it is the kernel module. -/
def kernel (run : Runner) (text : Option String) : Run Value :=
  match text with
  | none => pure (.module World.kernelModule)
  | some t => if t == kernelName then pure (.module World.kernelModule) else load run t

end Reference

end OrderedScope
