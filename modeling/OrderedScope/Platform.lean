import OrderedScope.Decimal.Shortest
import OrderedScope.Error
import OrderedScope.Settings.Document

/-!
# The Platform

What this library relies on and does not define: the reader of settings files, the console that
draws tables where one is installed, and the hashes of values. Nothing is assumed of them. A reader
may take any text for any document, a console may refuse what it is to draw, and different values
may have one hash.

A session that is run on its own has a platform of its own: it reads the settings files that
`Settings.readDocument?` reads, its console writes down the data that it is to draw, and it hashes
texts by their characters.
-/

namespace OrderedScope

/-- Numbers are positional from `1e-4` up to below `1e16`; an exponent has two digits or more. -/
def numberFormat : Decimal.Format := ⟨-4, 15, 2, "inf", "nan"⟩

/-! ### Tables -/

/-- How the cells of a column are set. -/
inductive Justify where
  | left
  | center
  | right
deriving DecidableEq, Repr

/-- The name of a way to set cells. -/
def Justify.name : Justify → String
  | left => "left"
  | center => "center"
  | right => "right"

/-- A **column** of a table. -/
structure Column where
  header : String
  justify : Justify
  style : String
  cells : List String

/-- A **table** for a console that draws it. Its cells may hold markup. -/
structure Table where
  title : String
  columns : List Column

/-- What a console is to **draw**. -/
inductive Drawing where
  | table (t : Table)
  | markup (text : String)

open Text (Json)

/-- A column as a document. -/
def Column.json (c : Column) : Json :=
  .obj [("cells", .arr (c.cells.map .str)), ("header", .str c.header),
    ("justify", .str c.justify.name), ("style", .str c.style)]

/-- A table as a document. -/
def Table.json (t : Table) : Json :=
  .obj [("columns", .arr (t.columns.map Column.json)), ("title", .str t.title)]

/-- A document on one line. -/
def compactText (j : Json) : String := j.compact numberFormat.number

/-- A document over several lines. -/
def indentedText (j : Json) : String := j.indented numberFormat.number 0

/-! ### Platforms -/

/-- A **console**: what it prints for a drawing, or the error with which it refuses it. -/
abbrev Console := Drawing → Except Error String

/-- The **platform**: the reader of settings files, which gives no document for a malformed text,
the console that draws tables, if one is installed, and the hash of a value whose class leaves it to
the platform. -/
structure Platform where
  readDocument : String → Option Members
  console : Option Console
  hash : Value → Int

/-- A console that **writes down** the data that it is to draw, each on a line. -/
def Console.recording : Console
  | .table t => .ok ("table: " ++ compactText t.json ++ "\n")
  | .markup text => .ok ("text: " ++ text ++ "\n")

/-- A number for the characters of a text. -/
def textHash (s : String) : Int := s.toList.foldl (fun h c => 31 * h + c.toNat) 7

/-- The platform of a session that is run **on its own**. Only texts have hashes of their own. -/
def Platform.alone : Platform where
  readDocument := Settings.readDocument?
  console := some .recording
  hash
    | .str s => textHash s
    | _ => 0

end OrderedScope
