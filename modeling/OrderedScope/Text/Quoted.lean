import OrderedScope.Text.Printable

/-!
# Quoted Text

The quoted form of a text: between single quotes, or between double quotes when the text holds a
single quote and no double one. The quote in use, the backslash and everything unprintable is
written as an escape; all other characters stand for themselves.

Short messages name a thing more simply: the text as it is between single quotes, and a long text
cut to a number of bytes.
-/

namespace OrderedScope.Text

/-- The digits of a number in base sixteen, in lower case, filled with zeros to a least width. -/
def hexDigits (width n : Nat) : List Char :=
  let digits := Nat.toDigits 16 n
  List.replicate (width - digits.length) '0' ++ digits

/-- The **quote mark** in use: double exactly if the text holds a single quote and no double one. -/
def quoteMark (cs : List Char) : Char :=
  if cs.contains '\x27' && !cs.contains '\x22' then '\x22' else '\x27'

/-- How one character stands between two given quote marks. -/
def quoteChar (mark c : Char) : List Char :=
  if c = mark || c = '\\' then ['\\', c]
  else if c = '\n' then ['\\', 'n']
  else if c = '\r' then ['\\', 'r']
  else if c = '\t' then ['\\', 't']
  else if isPrintable c then [c]
  else if c.toNat < 0x100 then ['\\', 'x'] ++ hexDigits 2 c.toNat
  else if c.toNat < 0x10000 then ['\\', 'u'] ++ hexDigits 4 c.toNat
  else ['\\', 'U'] ++ hexDigits 8 c.toNat

/-- The **quoted form** of a list of characters. -/
def quoteChars (cs : List Char) : List Char :=
  let mark := quoteMark cs
  mark :: cs.flatMap (quoteChar mark) ++ [mark]

/-- The **quoted form** of a text. -/
def quote (s : String) : String := String.ofList (quoteChars s.toList)

/-- How one byte of a byte text stands between two given quote marks: only ASCII is shown. -/
def quoteByte (mark : Char) (b : UInt8) : List Char :=
  let c := Char.ofNat b.toNat
  if b.toNat < 0x80 then quoteChar mark c else ['\\', 'x'] ++ hexDigits 2 b.toNat

/-- The quoted form of the UTF-8 bytes of a text, marked by a leading letter. -/
def quoteBytes (s : String) : String :=
  let mark := quoteMark s.toList
  String.ofList ('b' :: mark :: s.toUTF8.toList.flatMap (quoteByte mark) ++ [mark])

/-- A list of characters **cut** to a number of bytes. A character that does not fit whole leaves
the replacement character. -/
def clipChars : Nat → List Char → List Char
  | _, [] => []
  | room, c :: rest =>
    if c.utf8Size ≤ room then c :: clipChars (room - c.utf8Size) rest
    else if room = 0 then []
    else ['\uFFFD']

/-- A text **cut** to a number of bytes. -/
def clip (room : Nat) (s : String) : String := String.ofList (clipChars room s.toList)

/-- A text as it is **between single quotes**. -/
def enclose (s : String) : String := "'" ++ s ++ "'"

/-- A text as it is between single quotes, cut to a number of bytes. -/
def encloseUpTo (room : Nat) (s : String) : String := enclose (clip room s)

end OrderedScope.Text
