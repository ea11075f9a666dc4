import OrderedScope.Attribute.Truth

/-!
# Putting Values into Words

The text of a value is the text that its class writes; a task of the runner gives it. A class below
the texts can have a say in what is made of such a text: it can give another one for it, and another
one again where it is put into a message. So a **plain** text, a **formatted** one and a **quoted**
one are told apart. What is said must be a text, of whatever class.

## Main results

* `Error.text_of_isWorded`: where the message of an error is fixed, its text is the message.
-/

namespace OrderedScope

namespace Value

open Attribute (ask?)

/-- The **characters** of a text. -/
def contentOf (text : Value) : Run String := Run.reading fun w => (w.content? text).getD ""

/-- What a function for texts gives, which must be a text. -/
def textOf (source : String) (answer : Value) : Run Value := do
  match ← Run.reading (·.content? answer) with
  | some _ => pure answer
  | .none => do
    Run.raise (.misuse .type (source ++ " returned non-string (type " ++ (← classNameOf answer)
      ++ ")"))

/-- Texts **joined** into one; `place` is the place of the first. -/
def joinTexts (place : Nat) : List Value → Run String
  | [] => pure ""
  | text :: rest => do
    match ← Run.reading (·.content? text) with
    | some s => do pure (s ++ (← joinTexts (place + 1) rest))
    | .none => do
      Run.raise (.misuse .type ("sequence item " ++ toString place ++ ": expected str instance, "
        ++ (← classNameOf text) ++ " found"))

/-- The **letters** of the entries of a direction, in one text. Any entry may have a letter. -/
def letters (run : Runner) (entries : List Value) : Run String := do
  joinTexts 0 (← entries.mapM (Attribute.get run · "letter"))

/-- The **name** of a value that was accepted as a direction: the letters of its entries. The name
of what only says that it is a direction is not followed. -/
def directionName (run : Runner) : Value → Run String
  | .direction entries => letters run entries
  | _ => throw .exhausted

/-- The **plain text** of a value: a text is its own, unless its class gives another one for it. A
group and a direction go by their names. -/
def plainText (run : Runner) (v : Value) : Run String := do
  match v with
  | .str s => pure s
  | .group g => pure ("ContextGroup." ++ g.title)
  | .direction entries => letters run entries
  | _ =>
    match ← ask? run v "__str__" [], ← Run.reading (·.content? v) with
    | some answer, _ => do contentOf (← textOf "__str__" answer)
    | .none, some s => pure s
    | .none, .none => do contentOf (← run (.text [] v))

/-- What a function for formatted texts gives, which must be a text. -/
def formattedOf (answer : Value) : Run String := do
  match ← Run.reading (·.content? answer) with
  | some s => pure s
  | .none => do
    Run.raise (.misuse .type ("__format__ must return a str, not " ++ (← classNameOf answer)))

/-- The **formatted text** of a value, as it stands in a message: the plain text, unless its class
gives another one. -/
def formatted (run : Runner) (v : Value) : Run String := do
  match v with
  | .str s => pure s
  | _ =>
    match ← ask? run v "__format__" [.str ""] with
    | some answer => formattedOf answer
    | .none => v.plainText run

/-- The **quoted text** of a value: the text that its class writes, formatted. -/
def quotedText (run : Runner) (v : Value) : Run String := do formatted run (← run (.text [] v))

end Value

/-- The **text** of an error: the text of a key that is missing is that of the key. -/
def Error.text (run : Runner) : Error → Run String
  | .noItem key => do Value.contentOf (← run (.text [] key))
  | e => pure e.message

/-- Where the message of an error is fixed, its text **is the message**. -/
theorem Error.text_of_isWorded {e : Error} (h : e.isWorded = true) (run : Runner) :
    e.text run = pure e.message := by
  cases e with
  | noItem key => cases h
  | _ => rfl

end OrderedScope
