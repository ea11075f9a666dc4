import OrderedScope.Resolution
import OrderedScope.Text.Json

/-!
# Display

How an explanation and the list of directions are shown: as JSON documents, as plain lines, or as
tables where a console is installed that draws them. Such a console may refuse what it is to draw.
-/

namespace OrderedScope

open Text (Json)

/-! ### Explanations -/

/-- A **row** of an explanation: a step whose context is shown by its label. -/
structure Row where
  position : Nat
  group : Group
  label : String
  matched : Bool
  winner : Bool

/-- The label of a context where it is shown. What becomes there of a label that is no plain text is
not followed. -/
def shownLabel (run : Runner) (context : Value) : Run String := do
  match ← describe run context with
  | .str s => pure s
  | _ => throw .exhausted

/-- The rows of an explanation; the labels are made in order. -/
def rowsOf (run : Runner) (steps : List TraceStep) : Run (List Row) :=
  steps.mapM fun s => do
    pure ⟨s.position, s.group, ← shownLabel run s.context, s.matched, s.winner⟩

/-- Whether an explanation has a winner. -/
def isResolved (steps : List TraceStep) : Bool := steps.any (·.winner)

/-- The answer of a row in one word. -/
def Row.answer (r : Row) : String :=
  if r.winner then "winner" else if r.matched then "yes" else "no"

/-- The answer of a row with its markup. -/
def Row.markup (r : Row) : String :=
  if r.winner then "[bold green]winner[/bold green]"
  else if r.matched then "[green]yes[/green]"
  else "[dim]no[/dim]"

/-- The table of some rows. -/
def Table.ofRows (title : String) (rows : List Row) : Table where
  title := "Resolution of " ++ title
  columns := [
    ⟨"#", .right, "", rows.map fun r => toString r.position⟩,
    ⟨"Group", .left, "cyan", rows.map fun r => r.group.name⟩,
    ⟨"Context", .left, "", rows.map fun r => r.label⟩,
    ⟨"Answers", .center, "", rows.map Row.markup⟩]

/-- A text filled up with blanks behind it. -/
def padRight (width : Nat) (s : String) : String :=
  s ++ String.ofList (List.replicate (width - s.length) ' ')

/-- A text filled up with blanks before it. -/
def padLeft (width : Nat) (s : String) : String :=
  String.ofList (List.replicate (width - s.length) ' ') ++ s

/-- The plain line of a row. -/
def Row.line (r : Row) : String :=
  "  " ++ padLeft 2 (toString r.position) ++ "  " ++ padRight 6 r.group.name ++ "  "
    ++ padRight 6 r.answer ++ "  " ++ r.label ++ "\n"

/-- What is shown when no context answers. -/
def unresolvedNotice : String := "Unresolved: no context can answer this name."

/-- The title of an explanation of a name. -/
def explanationTitle (r : Resolver) (name : String) : String :=
  Text.quote name ++ " (" ++ r.variant.visibility ++ ", " ++ r.direction.name ++ ")"

/-- An explanation as plain lines. -/
def plainRows (resolved : Bool) (title : String) (rows : List Row) : String :=
  "Resolution of " ++ title ++ "\n" ++ String.join (rows.map Row.line)
    ++ (if resolved then "" else unresolvedNotice ++ "\n")

/-- What a console prints for a drawing. -/
def Console.print (c : Console) (d : Drawing) : Run String :=
  match c d with
  | .ok text => pure text
  | .error e => Run.raise e

/-- What a console prints for an explanation: a table, and a notice if no context answers. -/
def Console.printRows (c : Console) (resolved : Bool) (title : String) (rows : List Row) :
    Run String := do
  let table ← c.print (.table (.ofRows title rows))
  let notice ← if resolved then pure ""
    else c.print (.markup ("[red]" ++ unresolvedNotice ++ "[/red]"))
  pure (table ++ notice)

/-- The **display** of an explanation: plain lines if these are asked for or no console is
installed, else what the console prints. -/
def displayRows (plain resolved : Bool) (title : String) (rows : List Row) : Run String := do
  match plain, (← Run.reading (·.platform)).console with
  | false, some c => c.printRows resolved title rows
  | _, _ => pure (plainRows resolved title rows)

/-- Displays an explanation of a name. -/
def displayTrace (run : Runner) (r : Resolver) (name : String) (plain : Bool)
    (steps : List TraceStep) : Run String := do
  let rows ← rowsOf run steps
  displayRows plain (isResolved steps) (explanationTitle r name) rows

/-- A row as a document. -/
def Row.json (r : Row) : Json :=
  .obj [("position", .int r.position), ("group", .str r.group.name), ("context", .str r.label),
    ("matched", .bool r.matched), ("winner", .bool r.winner)]

/-- An explanation as a document. -/
def explanationJson (r : Resolver) (name : String) (resolved : Bool) (rows : List Row) : Json :=
  .obj [("name", .str name), ("direction", .str r.direction.name),
    ("visibility", .str r.variant.visibility), ("resolved", .bool resolved),
    ("steps", .arr (rows.map Row.json))]

/-! ### Directions -/

/-- The groups of a direction, highest rank first, with arrows between them. -/
def Direction.order (d : Direction) : String :=
  " => ".intercalate (d.groups.map Group.name)

/-- The table of all directions. -/
def Table.ofDirections : Table where
  title := "Directions"
  columns := [
    ⟨"Name", .left, "cyan", Direction.all.map Direction.name⟩,
    ⟨"Order", .left, "", Direction.all.map Direction.order⟩]

/-- All directions as plain lines. -/
def plainDirections : String :=
  String.join (Direction.all.map fun d => d.name ++ "  " ++ d.order ++ "\n")

/-- The **display** of all directions. -/
def displayDirections (plain : Bool) : Run String := do
  match plain, (← Run.reading (·.platform)).console with
  | false, some c => c.print (.table .ofDirections)
  | _, _ => pure plainDirections

/-- All directions as a document. -/
def directionsJson : Json :=
  .obj (Direction.all.map fun d => (d.name, .arr (d.groups.map fun g => .str g.name)))

end OrderedScope
