import OrderedScope.Attribute.Mark
import OrderedScope.Attribute.Tables
import OrderedScope.Attribute.Wording

/-!
# Asking a Context for a Name

A strategy decides whether a context answers a name and with what. The **dynamic** one looks whether
the context holds the name and lets the attribute protocol fetch it; only a name that is not held is
tried through the protocol alone, where hooks answer. The **static** one walks the member tables. A
**fallback** asks its first strategy, and its second where the hooks of a context refuse the first.
A strategy that does not include restricted members refuses names with a leading underscore and
members that are marked.

A look-up tells by an object, `Value.missing`, that there is nothing. A context that gives this very
object for a name, by a member or by a hook, gives nothing: the look-up goes on, though the context
answers the name.

## Main results

* `Strategy.refused_respondsTo`: a refused name is not answered, and no code runs to find that out.
-/

namespace OrderedScope

namespace Strategy

/-- Whether restricted members are included. -/
def includesRestricted : Strategy → Bool
  | dynamic r => r
  | static r => r
  | fallback primary _ => primary.includesRestricted

/-- How a truth value is shown. -/
def flag (b : Bool) : String := if b then "True" else "False"

/-- The text of a strategy. -/
def text : Strategy → String
  | dynamic r => "DynamicIntrospector(include_restricted=" ++ flag r ++ ")"
  | static r => "StaticIntrospector(include_restricted=" ++ flag r ++ ")"
  | fallback p s => "FallbackIntrospector(" ++ p.text ++ ", " ++ s.text ++ ")"

/-- Whether a name is refused without a look at the context. -/
def refuses (restricted : Bool) (name : String) : Bool := !restricted && isRestrictedName name

end Strategy

namespace Lookup

open Attribute

/-! ### The dynamic strategy -/

/-- Whether a context answers a name by the dynamic strategy. Nothing that is held is computed. -/
def dynamicRespondsTo (run : Runner) (restricted : Bool) (context : Value) (name : String) :
    Run Bool := do
  if Strategy.refuses restricted name then pure false
  else
    match ← held? run context name with
    | none => has run context name
    | some raw =>
      if ← isEmptySlot run raw context then pure false
      else if restricted then pure true
      else not <$> isMarked run raw

/-- What a context answers to a name by the dynamic strategy. The errors of a member that is held
are its own; a name that is not held may be missing. What is fetched and tells that there is nothing
counts as nothing. -/
def dynamicLookup (run : Runner) (restricted : Bool) (context : Value) (name : String) :
    Run (Option Value) := do
  if Strategy.refuses restricted name then pure none
  else
    match ← held? run context name with
    | none => (·.bind Value.known?) <$> get? run context name
    | some raw =>
      if ← isEmptySlot run raw context then pure none
      else
        let hidden ← if restricted then pure false else isMarked run raw
        if hidden then pure none else Value.known? <$> get run context name

/-! ### The static strategy -/

/-- The entry that the static strategy sees. -/
def staticFound? (run : Runner) (restricted : Bool) (context : Value) (name : String) :
    Run (Option (Value × Bool)) := do
  if Strategy.refuses restricted name then pure none
  else
    match ← walk? run context name with
    | none => pure none
    | some (raw, loose) =>
      if ← isEmptySlot run raw context then pure none
      else
        let hidden ← if restricted then pure false else isMarked run raw
        pure (if hidden then none else some (raw, loose))

/-- An entry of a walk, bound if it is still to be bound. -/
def settle (run : Runner) (context : Value) : Value × Bool → Run Value
  | (raw, true) => bindEntry run raw context
  | (raw, false) => pure raw

/-- What a context answers to a name by the static strategy. What is bound and tells that there is
nothing counts as nothing. -/
def staticLookup (run : Runner) (restricted : Bool) (context : Value) (name : String) :
    Run (Option Value) := do
  match ← staticFound? run restricted context name with
  | none => pure none
  | some entry => Value.known? <$> settle run context entry

/-- The member under a name by the static strategy, whatever its visibility. -/
def staticMember (run : Runner) (context : Value) (name : String) : Run Value := do
  match ← walk? run context name with
  | none => Run.raise (.bareAttribute name)
  | some entry => settle run context entry

/-! ### The fallback -/

/-- **Gives a context over** to a second strategy after a refusal. If the hooks of the context are
not to blame for it, the refusal stands. -/
def handOver (run : Runner) (secondary : Strategy) (operation : String) (context : Value)
    (name : String) (e : Error) : Run Unit := do
  if ← overridesProtocol run context name then
    let c ← Run.reading (·.classOf context)
    let shown ← get run (.cls c) "__qualname__"
    Run.logText .debug fun _ => do
      pure ("Falling back to " ++ secondary.text ++ " for " ++ operation ++ "("
        ++ Text.quote name ++ ") on " ++ (← shown.plainText run) ++ ": " ++ (← e.text run))
  else Run.raise e

/-- Asks a first strategy, and a second one if the hooks of the context refuse the first. -/
def withFallback {α : Type} (run : Runner) (secondary : Strategy) (operation : String)
    (context : Value) (name : String) (first second : Run α) : Run α :=
  Run.recover (·.kind.isAny Kind.refusals) first fun e => do
    handOver run secondary operation context name e
    second

end Lookup

namespace Strategy

open Lookup

/-- Whether a context **answers** a name. -/
def respondsTo (run : Runner) : Strategy → Value → String → Run Bool
  | dynamic r, context, name => dynamicRespondsTo run r context name
  | static r, context, name => Option.isSome <$> staticFound? run r context name
  | fallback p s, context, name =>
    withFallback run s "responds_to" context name (p.respondsTo run context name)
      (s.respondsTo run context name)

/-- **What** a context answers to a name; `none` if it does not answer. -/
def lookup (run : Runner) : Strategy → Value → String → Run (Option Value)
  | dynamic r, context, name => dynamicLookup run r context name
  | static r, context, name => staticLookup run r context name
  | fallback p s, context, name =>
    withFallback run s "lookup" context name (p.lookup run context name)
      (s.lookup run context name)

/-- The member of a context under a name, whatever its visibility. -/
def member (run : Runner) : Strategy → Value → String → Run Value
  | dynamic _, context, name => Attribute.get run context name
  | static _, context, name => staticMember run context name
  | fallback p s, context, name =>
    withFallback run s "member" context name (p.member run context name)
      (s.member run context name)

/-! ### Laws -/

/-- A refused name is **not answered**, and no code runs to find that out. -/
theorem refused_respondsTo (run : Runner) (context : Value) {name : String}
    (h : isRestrictedName name) :
    respondsTo run (dynamic false) context name = pure false
      ∧ respondsTo run (static false) context name = pure false := by
  simp [respondsTo, dynamicRespondsTo, staticFound?, refuses, h]

end Strategy

end OrderedScope
