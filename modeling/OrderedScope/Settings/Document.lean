import OrderedScope.Object.Value
import OrderedScope.Text.Json

/-!
# Settings Documents

The text of a settings file as a session that is run on its own reads it: lines of `key = value`,
comments, and headers in brackets that name the table to which the following lines belong. A key may
be dotted and quoted; a value is a text, a number, a truth value, an array or a table in braces. A
name is defined at most once. The text is first read as a list of statements, and the statements
then build the document. Other readers read more; which one is used is a matter of the platform.
-/

namespace OrderedScope.Settings

open OrderedScope.Text (Json)

/-- A **statement** of a document. -/
inductive Statement where
  | table (path : List String)
  | entry (path : List String) (v : Value)

namespace Document

/-! ### Reading -/

/-- Drops blanks within a line. -/
def skipBlanks (cs : List Char) : List Char := cs.dropWhile fun c => c = ' ' || c = '\t'

/-- Whether a character may stand in a text or a comment: a tab may, other control characters may
not. -/
def isPlain (c : Char) : Bool := !((c.toNat < 32 && c != '\t') || c.toNat = 127)

/-- Drops a comment, as far as it may go. -/
def skipLine (cs : List Char) : List Char := cs.dropWhile isPlain

/-- Drops blanks, line ends and comments, in at most `steps` steps. -/
def skipVoid : Nat → List Char → List Char
  | 0, cs => cs
  | steps + 1, cs =>
    match skipBlanks cs with
    | '\n' :: rest => skipVoid steps rest
    | '\r' :: '\n' :: rest => skipVoid steps rest
    | '#' :: rest => skipVoid steps (skipLine rest)
    | rest => rest

/-- Whether a character may stand in a key without quotes. -/
def isBare (c : Char) : Bool := c.isAlphanum || c = '_' || c = '-'

/-- Some digits in base sixteen as a character. -/
def readCode? (count : Nat) (cs : List Char) : Option (Char × List Char) := do
  let digits ← (cs.take count).mapM Json.hexValue?
  let code := digits.foldl (fun n d => n * 16 + d) 0
  if digits.length = count && code.isValidChar then some (Char.ofNat code, cs.drop count)
  else none

/-- The rest of a text in double quotes; `done` is what it holds, reversed. -/
def readBasic? : Nat → List Char → List Char → Option (String × List Char)
  | 0, _, _ => none
  | _ + 1, _, [] => none
  | fuel + 1, done, c :: rest =>
    if c = '\x22' then some (String.ofList done.reverse, rest)
    else if c = '\\' then
      match rest with
      | 'b' :: rest => readBasic? fuel (Char.ofNat 8 :: done) rest
      | 't' :: rest => readBasic? fuel ('\t' :: done) rest
      | 'n' :: rest => readBasic? fuel ('\n' :: done) rest
      | 'f' :: rest => readBasic? fuel (Char.ofNat 12 :: done) rest
      | 'r' :: rest => readBasic? fuel ('\r' :: done) rest
      | '\x22' :: rest => readBasic? fuel ('\x22' :: done) rest
      | '\\' :: rest => readBasic? fuel ('\\' :: done) rest
      | 'u' :: rest =>
        match readCode? 4 rest with
        | some (c, rest) => readBasic? fuel (c :: done) rest
        | none => none
      | 'U' :: rest =>
        match readCode? 8 rest with
        | some (c, rest) => readBasic? fuel (c :: done) rest
        | none => none
      | _ => none
    else if isPlain c then readBasic? fuel (c :: done) rest
    else none

/-- The rest of a text in single quotes. -/
def readLiteral? (cs : List Char) : Option (String × List Char) :=
  let (body, rest) := cs.span fun c => c != '\x27' && c != '\n'
  match rest with
  | '\x27' :: rest =>
    if body.all isPlain then some (String.ofList body, rest) else none
  | _ => none

/-- One part of a key. -/
def readPart? (cs : List Char) : Option (String × List Char) :=
  match cs with
  | '\x22' :: rest => readBasic? (rest.length + 1) [] rest
  | '\x27' :: rest => readLiteral? rest
  | _ =>
    let (part, rest) := cs.span isBare
    if part.isEmpty then none else some (String.ofList part, rest)

/-- A key of some parts between dots. -/
def readKey? : Nat → List Char → Option (List String × List Char)
  | 0, _ => none
  | fuel + 1, cs => do
    let (part, rest) ← readPart? (skipBlanks cs)
    match skipBlanks rest with
    | '.' :: rest => do
      let (parts, rest) ← readKey? fuel rest
      some (part :: parts, rest)
    | rest => some ([part], rest)

/-- Whether digits may stand in a number: single underscores between them, and no zero in front. -/
def goodDigits (cs : List Char) : Bool :=
  let parts := (String.ofList cs).splitOn "_"
  parts.all fun part => !part.isEmpty && part.all Char.isDigit

/-- The digits of a number without their underscores. -/
def plainDigits (cs : List Char) : List Char := cs.filter (· != '_')

/-- A whole number in base two, eight or sixteen, behind the mark of its base. -/
def readBased? (base : Nat) (cs : List Char) : Option (Value × List Char) :=
  let (token, rest) := cs.span fun c => c.isAlphanum || c = '_'
  let parts := (String.ofList token).splitOn "_"
  let digits := (plainDigits token).mapM Json.hexValue?
  match digits with
  | some ds =>
    if parts.all (!·.isEmpty) && ds.all (· < base) then
      some (.int (ds.foldl (fun n d => n * base + d) 0 : Nat), rest)
    else none
  | none => none

/-- A number in base ten. -/
def readDecimal? (cs : List Char) : Option (Value × List Char) :=
  let (negative, cs) := match cs with
    | '-' :: rest => (true, rest)
    | '+' :: rest => (false, rest)
    | _ => (false, cs)
  let (whole, rest) := cs.span fun c => c.isDigit || c = '_'
  let leading := whole.head? = some '0' && whole.length != 1
  if !goodDigits whole || leading then none
  else
    match rest with
    | '.' :: more | 'e' :: more | 'E' :: more =>
      let token := cs.takeWhile fun c =>
        c.isDigit || c = '_' || c = '.' || c = 'e' || c = 'E' || c = '+' || c = '-'
      match more.head?, Json.readNumber? (plainDigits token) with
      | some _, some (.float x, []) =>
        some (.float (if negative then -x else x), cs.drop token.length)
      | _, _ => none
    | _ =>
      let n : Int := Json.decimalValue (plainDigits whole)
      some (.int (if negative then -n else n), rest)

/-- A number. -/
def readNumber? (cs : List Char) : Option (Value × List Char) :=
  match cs with
  | '0' :: 'x' :: rest => readBased? 16 rest
  | '0' :: 'o' :: rest => readBased? 8 rest
  | '0' :: 'b' :: rest => readBased? 2 rest
  | _ => readDecimal? cs

/-- Puts an entry where none stands, opening tables on the way. -/
def putAt (m : Members) (path : List String) (v : Value) : Option Members :=
  match path with
  | [] => none
  | [name] => if m.has name then none else some (m.put name v)
  | name :: rest =>
    match m.find? name with
    | none => (putAt [] rest v).map fun inner => m.put name (.dict inner)
    | some (.dict inner) => (putAt inner rest v).map fun inner => m.put name (.dict inner)
    | some _ => none

mutual

/-- A value. -/
def readValue? : Nat → List Char → Option (Value × List Char)
  | 0, _ => none
  | fuel + 1, cs =>
    match cs with
    | '\x22' :: rest => (readBasic? (rest.length + 1) [] rest).map fun (s, rest) => (.str s, rest)
    | '\x27' :: rest => (readLiteral? rest).map fun (s, rest) => (.str s, rest)
    | 't' :: 'r' :: 'u' :: 'e' :: rest => some (.bool true, rest)
    | 'f' :: 'a' :: 'l' :: 's' :: 'e' :: rest => some (.bool false, rest)
    | '[' :: rest => (readItems? fuel rest).map fun (items, rest) => (.list items, rest)
    | '\x7b' :: rest =>
      match skipBlanks rest with
      | '\x7d' :: rest => some (.dict [], rest)
      | rest => (readFields? fuel [] rest).map fun (m, rest) => (.dict m, rest)
    | _ => readNumber? cs

/-- The items of an array up to its closing bracket; a comma may follow the last. -/
def readItems? : Nat → List Char → Option (List Value × List Char)
  | 0, _ => none
  | fuel + 1, cs =>
    match skipVoid cs.length cs with
    | ']' :: rest => some ([], rest)
    | rest => do
      let (item, rest) ← readValue? fuel rest
      match skipVoid rest.length rest with
      | ',' :: rest => (readItems? fuel rest).map fun (items, rest) => (item :: items, rest)
      | ']' :: rest => some ([item], rest)
      | _ => none

/-- The fields of a table in braces up to its closing brace. -/
def readFields? : Nat → Members → List Char → Option (Members × List Char)
  | 0, _, _ => none
  | fuel + 1, done, cs => do
    let (path, rest) ← readKey? cs.length cs
    match rest with
    | '=' :: rest => do
      let (v, rest) ← readValue? fuel (skipBlanks rest)
      let done ← putAt done path v
      match skipBlanks rest with
      | ',' :: rest => readFields? fuel done rest
      | '\x7d' :: rest => some (done, rest)
      | _ => none
    | _ => none

end

/-- Whether nothing but blanks and a comment is left of a line; gives what follows the line. -/
def endLine? (cs : List Char) : Option (List Char) :=
  match skipBlanks cs with
  | [] => some []
  | '\n' :: rest => some rest
  | '\r' :: '\n' :: rest => some rest
  | '#' :: rest =>
    match skipLine rest with
    | [] => some []
    | '\n' :: rest => some rest
    | '\r' :: '\n' :: rest => some rest
    | _ => none
  | _ => none

/-- One statement with what follows its line. -/
def readStatement? (cs : List Char) : Option (Statement × List Char) :=
  match cs with
  | '[' :: rest => do
    let (path, rest) ← readKey? rest.length rest
    match rest with
    | ']' :: rest => some (.table path, ← endLine? rest)
    | _ => none
  | _ => do
    let (path, rest) ← readKey? cs.length cs
    match rest with
    | '=' :: rest => do
      let rest := skipBlanks rest
      let (v, rest) ← readValue? (2 * rest.length + 2) rest
      some (.entry path v, ← endLine? rest)
    | _ => none

/-- The statements of a text. -/
def readStatements? : Nat → List Char → Option (List Statement)
  | 0, cs => if (skipVoid cs.length cs).isEmpty then some [] else none
  | fuel + 1, cs =>
    match skipVoid cs.length cs with
    | [] => some []
    | rest => do
      let (s, rest) ← readStatement? rest
      some (s :: (← readStatements? fuel rest))

/-! ### Building -/

/-- Opens a table. -/
def openAt (m : Members) (path : List String) : Option Members :=
  match path with
  | [] => some m
  | name :: rest =>
    match m.find? name with
    | none => (openAt [] rest).map fun inner => m.put name (.dict inner)
    | some (.dict inner) => (openAt inner rest).map fun inner => m.put name (.dict inner)
    | some _ => none

/-- A document in the making: what it holds, the table of the last header, the paths that headers
opened, those that dotted keys opened, and those of tables in braces, which are closed. -/
structure Draft where
  content : Members
  current : List String
  opened : List (List String)
  dotted : List (List String)
  closed : List (List String)

/-- The proper beginnings of a path behind a first part of it. -/
def beginnings (base path : List String) : List (List String) :=
  (List.range (path.length - 1)).map fun n => base ++ path.take (n + 1)

/-- Adds a statement to a draft, if it defines nothing twice. -/
def Draft.add (d : Draft) : Statement → Option Draft
  | .table path =>
    if d.opened.contains path || d.dotted.contains path
        || d.closed.any (·.isPrefixOf path) then none
    else (openAt d.content path).map fun content =>
      { d with content, current := path, opened := path :: d.opened }
  | .entry path v =>
    let full := d.current ++ path
    let between := beginnings d.current path
    if between.any d.opened.contains || d.closed.any (·.isPrefixOf full) then none
    else (putAt d.content full v).map fun content =>
      let closed := match v with
        | .dict _ => full :: d.closed
        | _ => d.closed
      { d with content, dotted := between ++ d.dotted, closed }

end Document

/-- The **document** that a text spells. -/
def readDocument? (text : String) : Option Members := do
  let cs := text.toList
  let statements ← Document.readStatements? (cs.length + 1) cs
  let draft ← statements.foldlM Document.Draft.add ⟨[], [], [], [], []⟩
  some draft.content

end OrderedScope.Settings
