import OrderedScope.Attribute.Truth
import OrderedScope.Attribute.Update

/-!
# Restricted Members

A member is restricted by its name, or by a mark. The mark is an attribute of the member itself, or
of the function that it wraps: of a static or a class method, or of the getter of a computed
member.
What stands under the name of the mark counts as a mark if it counts as true, which an object or a
class of the world decides by functions of its class.
-/

namespace OrderedScope.Attribute

/-- Who holds the **mark** of a member: the function that it wraps, or the member itself. -/
def markHolder (run : Runner) (raw : Value) : Run Value := do
  if ← isInstance run raw (.native .staticMethod) then get run raw "__func__"
  else if ← isInstance run raw (.native .classMethod) then get run raw "__func__"
  else if ← isInstance run raw (.native .property) then get run raw "fget"
  else pure raw

/-- Whether a member is **marked** as restricted. -/
def isMarked (run : Runner) (raw : Value) : Run Bool := do
  match raw with
  | .none | .missing => pure false
  | _ =>
    match ← get? run (← markHolder run raw) restrictedMark with
    | some mark => mark.truthy run
    | none => pure false

/-- **Marks** a member as restricted. -/
def restrict (run : Runner) (raw : Value) : Run Unit := do
  match raw, ← markHolder run raw with
  | .property .., .none => Run.raise .unmarkable
  | _, holder => set run holder restrictedMark (.bool true)

end OrderedScope.Attribute
