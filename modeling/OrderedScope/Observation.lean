import OrderedScope.Attribute.Update
import OrderedScope.Attribute.Wording

/-!
# Observation

A resolver tells its observer what it resolves and evaluates. The observer is called within the
look-up, but its failures are only logged, so that a broken observer does not change which context
wins. An error that is no ordinary failure is not held back, and neither is one of putting a failure
into words: the message is made for every failure, whether or not it is logged.
-/

namespace OrderedScope

/-- The name of a kind of events. -/
def EventKind.name : EventKind → String
  | .resolved => "resolved"
  | .unresolved => "unresolved"
  | .evaluated => "evaluated"

/-- The name of a kind of events in upper case. -/
def EventKind.title : EventKind → String
  | .resolved => "RESOLVED"
  | .unresolved => "UNRESOLVED"
  | .evaluated => "EVALUATED"

namespace Event

/-- A name was resolved to a context of a group, at a position among all contexts. -/
def resolved (name : String) (context group position : Value) (extra : Members) : Event :=
  ⟨.resolved, some name,
    [("context", context), ("group", group), ("position", position)] ++ extra⟩

/-- A name was answered by no context. -/
def unresolved (name : String) (extra : Members) : Event := ⟨.unresolved, some name, extra⟩

/-- A closure was evaluated. -/
def evaluated (extra : Members) : Event := ⟨.evaluated, none, extra⟩

end Event

/-- What an observer does with an event that it has recorded. -/
def Observer.react (run : Runner) : Observer → Run Unit
  | .record => pure ()
  | .raise e => Run.raise e
  | .select fails => do
    match fails (← Run.reading (·.observed)) with
    | some f => Run.raise f.error
    | none => pure ()
  | .delete target name => Attribute.delete run target name

/-- An observer **hears** of an event: it records it and reacts. -/
def Observer.hear (run : Runner) (o : Observer) (e : Event) : Run Unit := do
  modify fun w => { w with observed := e :: w.observed }
  o.react run

/-- **Emits** an event to an observer. An ordinary failure of it is put into words and logged. -/
def emit (run : Runner) (observer : Option Observer) (e : Event) : Run Unit :=
  match observer with
  | none => pure ()
  | some o =>
    Run.recover (·.isA .failure) (o.hear run e) fun failure => do
      let words ← failure.text run
      Run.log .warning ("Event callback failed for EventKind." ++ e.kind.title ++ ": " ++ words)

end OrderedScope
