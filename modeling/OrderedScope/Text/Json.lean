import OrderedScope.Text.Quoted

/-!
# JSON Documents

JSON documents, which keep whole numbers apart from numbers with a fraction or an exponent and the
fields of an object in their order. There are two written forms: on one line, and spread over lines
with an indentation of two blanks. Both write ASCII only. `Json.parse?` reads a document.
-/

namespace OrderedScope.Text

/-- A **JSON document**. -/
inductive Json where
  | null
  | bool (b : Bool)
  | int (n : Int)
  | float (x : Float)
  | str (s : String)
  | arr (items : List Json)
  | obj (fields : List (String × Json))
deriving Inhabited

namespace Json

/-! ### Writing -/

/-- One UTF-16 unit as an escape. -/
def escapeUnit (n : Nat) : List Char := '\\' :: 'u' :: hexDigits 4 n

/-- A character within a JSON string: all but printable ASCII is escaped, what lies above the first
plane as a pair of UTF-16 units. -/
def escapeChar (c : Char) : List Char :=
  let n := c.toNat
  if c = '\x22' || c = '\\' then ['\\', c]
  else if c = '\n' then ['\\', 'n']
  else if c = '\r' then ['\\', 'r']
  else if c = '\t' then ['\\', 't']
  else if n = 8 then ['\\', 'b']
  else if n = 12 then ['\\', 'f']
  else if 32 ≤ n && n ≤ 126 then [c]
  else if n < 0x10000 then escapeUnit n
  else escapeUnit (0xD800 + (n - 0x10000) / 0x400) ++ escapeUnit (0xDC00 + (n - 0x10000) % 0x400)

/-- A text as a JSON string. -/
def writeString (s : String) : String :=
  String.ofList ('\x22' :: s.toList.flatMap escapeChar ++ ['\x22'])

/-- The text of a document without parts; numbers with a fraction are left to the given writer. -/
def writeLeaf (number : Float → String) : Json → String
  | null => "null"
  | bool b => if b then "true" else "false"
  | int n => toString n
  | float x => number x
  | str s => writeString s
  | arr _ => "[]"
  | obj _ => "\x7b\x7d"

mutual

/-- The document on **one line**: a comma or a colon is followed by a blank. -/
def compact (number : Float → String) : Json → String
  | arr items => "[" ++ ", ".intercalate (compactItems number items) ++ "]"
  | obj fields => "\x7b" ++ ", ".intercalate (compactFields number fields) ++ "\x7d"
  | leaf => writeLeaf number leaf

def compactItems (number : Float → String) : List Json → List String
  | [] => []
  | j :: rest => compact number j :: compactItems number rest

def compactFields (number : Float → String) : List (String × Json) → List String
  | [] => []
  | (k, j) :: rest => (writeString k ++ ": " ++ compact number j) :: compactFields number rest

end

/-- Lines between two brackets, one level deeper than the line they start on. -/
def block (opening closing : String) (depth : Nat) (lines : List String) : String :=
  let inner := "\n" ++ String.ofList (List.replicate (2 * (depth + 1)) ' ')
  let outer := "\n" ++ String.ofList (List.replicate (2 * depth) ' ')
  opening ++ inner ++ ("," ++ inner).intercalate lines ++ outer ++ closing

mutual

/-- The document **over several lines**, a part at a depth of `depth`. -/
def indented (number : Float → String) (depth : Nat) : Json → String
  | arr (j :: rest) => block "[" "]" depth (indentedItems number (depth + 1) (j :: rest))
  | obj (f :: rest) => block "\x7b" "\x7d" depth (indentedFields number (depth + 1) (f :: rest))
  | leaf => writeLeaf number leaf

def indentedItems (number : Float → String) (depth : Nat) : List Json → List String
  | [] => []
  | j :: rest => indented number depth j :: indentedItems number depth rest

def indentedFields (number : Float → String) (depth : Nat) : List (String × Json) → List String
  | [] => []
  | (k, j) :: rest =>
    (writeString k ++ ": " ++ indented number depth j) :: indentedFields number depth rest

end

/-! ### Reading -/

/-- Drops the blanks of JSON. -/
def skipBlanks (cs : List Char) : List Char :=
  cs.dropWhile fun c => c = ' ' || c = '\n' || c = '\r' || c = '\t'

/-- The value of a digit in base sixteen. -/
def hexValue? (c : Char) : Option Nat :=
  if '0' ≤ c && c ≤ '9' then some (c.toNat - '0'.toNat)
  else if 'a' ≤ c && c ≤ 'f' then some (c.toNat - 'a'.toNat + 10)
  else if 'A' ≤ c && c ≤ 'F' then some (c.toNat - 'A'.toNat + 10)
  else none

/-- Four digits in base sixteen. -/
def readUnit? : List Char → Option (Nat × List Char)
  | a :: b :: c :: d :: rest => do
    let n := ((← hexValue? a) * 16 + (← hexValue? b)) * 256
    some (n + (← hexValue? c) * 16 + (← hexValue? d), rest)
  | _ => none

/-- The character of a `\u` escape, whose four digits come first; a pair of units is one. -/
def readEscape? (cs : List Char) : Option (Char × List Char) := do
  let (first, rest) ← readUnit? cs
  if 0xD800 ≤ first && first < 0xDC00 then
    match rest with
    | '\\' :: 'u' :: more => do
      let (second, rest) ← readUnit? more
      some (Char.ofNat (0x10000 + (first - 0xD800) * 0x400 + (second - 0xDC00)), rest)
    | _ => some (Char.ofNat 0xFFFD, rest)
  else some (Char.ofNat first, rest)

/-- The rest of a string whose opening quote has been read; `done` is what it holds, reversed. -/
def readString? : Nat → List Char → List Char → Option (String × List Char)
  | 0, _, _ => none
  | _ + 1, _, [] => none
  | fuel + 1, done, c :: rest =>
    if c = '\x22' then some (String.ofList done.reverse, rest)
    else if c = '\\' then
      match rest with
      | 'n' :: rest => readString? fuel ('\n' :: done) rest
      | 'r' :: rest => readString? fuel ('\r' :: done) rest
      | 't' :: rest => readString? fuel ('\t' :: done) rest
      | 'b' :: rest => readString? fuel (Char.ofNat 8 :: done) rest
      | 'f' :: rest => readString? fuel (Char.ofNat 12 :: done) rest
      | 'u' :: rest =>
        match readEscape? rest with
        | some (c, rest) => readString? fuel (c :: done) rest
        | none => none
      | c :: rest => readString? fuel (c :: done) rest
      | [] => none
    else readString? fuel (c :: done) rest

/-- The value of a list of decimal digits. -/
def decimalValue (cs : List Char) : Nat := cs.foldl (fun n c => n * 10 + (c.toNat - '0'.toNat)) 0

/-- A number: whole if it shows neither a point nor an exponent. -/
def readNumber? (cs : List Char) : Option (Json × List Char) :=
  let (negative, cs) := match cs with
    | '-' :: rest => (true, rest)
    | _ => (false, cs)
  let (whole, rest) := cs.span Char.isDigit
  let (fraction, rest) := match rest with
    | '.' :: more => let (ds, rest) := more.span Char.isDigit; (some ds, rest)
    | _ => (none, rest)
  let (exponent, rest) := match rest with
    | 'e' :: '-' :: more | 'E' :: '-' :: more =>
      let (ds, rest) := more.span Char.isDigit; (some (-(decimalValue ds : Int)), rest)
    | 'e' :: '+' :: more | 'E' :: '+' :: more | 'e' :: more | 'E' :: more =>
      let (ds, rest) := more.span Char.isDigit; (some (decimalValue ds : Int), rest)
    | _ => (none, rest)
  if whole.isEmpty || fraction = some [] then none
  else if fraction.isNone && exponent.isNone then
    let n : Int := decimalValue whole
    some (int (if negative then -n else n), rest)
  else
    let ds := fraction.getD []
    let power := exponent.getD 0 - ds.length
    let size := Float.ofScientific (decimalValue (whole ++ ds)) (power < 0) power.natAbs
    some (float (if negative then -size else size), rest)

mutual

/-- A document at the start of a text, and what follows it. -/
def read? : Nat → List Char → Option (Json × List Char)
  | 0, _ => none
  | fuel + 1, cs =>
    match skipBlanks cs with
    | '[' :: rest =>
      match skipBlanks rest with
      | ']' :: rest => some (arr [], rest)
      | rest => (readItems? fuel rest).map fun (items, rest) => (arr items, rest)
    | '\x7b' :: rest =>
      match skipBlanks rest with
      | '\x7d' :: rest => some (obj [], rest)
      | rest => (readFields? fuel rest).map fun (fields, rest) => (obj fields, rest)
    | '\x22' :: rest => (readString? rest.length [] rest).map fun (s, rest) => (str s, rest)
    | 'n' :: 'u' :: 'l' :: 'l' :: rest => some (null, rest)
    | 't' :: 'r' :: 'u' :: 'e' :: rest => some (bool true, rest)
    | 'f' :: 'a' :: 'l' :: 's' :: 'e' :: rest => some (bool false, rest)
    | rest => readNumber? rest

/-- The items of an array up to its closing bracket. -/
def readItems? : Nat → List Char → Option (List Json × List Char)
  | 0, _ => none
  | fuel + 1, cs => do
    let (item, rest) ← read? fuel cs
    match skipBlanks rest with
    | ',' :: rest => (readItems? fuel rest).map fun (items, rest) => (item :: items, rest)
    | ']' :: rest => some ([item], rest)
    | _ => none

/-- The fields of an object up to its closing brace. -/
def readFields? : Nat → List Char → Option (List (String × Json) × List Char)
  | 0, _ => none
  | fuel + 1, cs =>
    match skipBlanks cs with
    | '\x22' :: rest => do
      let (key, rest) ← readString? rest.length [] rest
      match skipBlanks rest with
      | ':' :: rest => do
        let (value, rest) ← read? fuel rest
        match skipBlanks rest with
        | ',' :: rest =>
          (readFields? fuel rest).map fun (fields, rest) => ((key, value) :: fields, rest)
        | '\x7d' :: rest => some ([(key, value)], rest)
        | _ => none
      | _ => none
    | _ => none

end

/-- The document that a whole text spells. -/
def parse? (s : String) : Option Json := do
  let cs := s.toList
  let (j, rest) ← read? (2 * cs.length + 2) cs
  if (skipBlanks rest).isEmpty then some j else none

/-! ### Access -/

/-- The value of a field of an object. -/
def field? (j : Json) (key : String) : Option Json :=
  match j with
  | obj fields => fields.lookup key
  | _ => none

end Json

end OrderedScope.Text
