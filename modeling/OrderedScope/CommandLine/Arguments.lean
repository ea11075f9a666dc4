/-!
# Arguments

How a list of arguments is read: switches, which may take a text, and operands. A long switch may be
cut as long as one switch starts with what is left; a text stands behind its switch or after an
equals sign, and a short switch may be followed by its text or by further short switches at once.
After two dashes everything is an operand. Where a program takes all the rest as one operand, it is
not looked into.
-/

namespace OrderedScope.CommandLine

/-- A **switch**: its names, and whether it takes a text. The first switch asks for help. -/
structure Switch where
  names : List String
  takesText : Bool
deriving DecidableEq, Repr

/-- The names of a switch in messages. -/
def Switch.title (s : Switch) : String := "/".intercalate s.names

/-- The **operands** that a program takes. -/
inductive Operands where
  | nothing
  /-- One operand, which must be given. -/
  | one (title : String)
  /-- One operand, and everything behind it. -/
  | rest
deriving DecidableEq, Repr

/-- The **grammar** of the arguments of a program. -/
structure Grammar where
  program : String
  switches : List Switch
  operands : Operands

/-- What was read: the switches that were used, in order, with their texts, the operands, and what
could not be placed. -/
structure Reading where
  used : List (Switch × String)
  operands : List String
  extras : List String

/-- How a reading can stop early. -/
inductive Stop where
  | help
  | problem (text : String)
deriving DecidableEq, Repr

/-- An argument, as it looks on its own. -/
inductive Item where
  | operand (text : String)
  | dashes
  /-- A switch, with the name it was found by and a text in the same argument. -/
  | switch (s : Switch) (name : String) (text : Option String)
  | unknown (text : String)
deriving DecidableEq, Repr

/-- An argument as it was written. -/
abbrev Written := Item × String

/-- Whether an operand is still to come. -/
inductive Place where
  | waiting
  /-- The operand is the argument just read. -/
  | filled
  | closed
deriving DecidableEq, Repr

/-- Puts an argument with what could not be placed. -/
def Reading.leave (r : Reading) (written : String) : Reading :=
  { r with extras := r.extras ++ [written] }

namespace Grammar

/-- The switches, each beside each of its names. -/
def named (g : Grammar) : List (String × Switch) :=
  g.switches.flatMap fun s => s.names.map fun n => (n, s)

/-- The switch of a name. -/
def find? (g : Grammar) (name : String) : Option Switch := g.named.lookup name

/-- An argument, cut at its first equals sign. -/
def splitText (arg : List Char) : List Char × Option (List Char) :=
  match arg.dropWhile (· != '=') with
  | [] => (arg, none)
  | _ :: text => (arg.takeWhile (· != '='), some text)

/-- The switches that an argument may mean. -/
def candidates (g : Grammar) (arg : List Char) : List (Switch × String × Option String) :=
  let starts (cs : List Char) (name : String) : Bool := cs.isPrefixOf name.toList
  match arg with
  | '-' :: '-' :: _ =>
    let (stem, text) := splitText arg
    g.named.filterMap fun (name, s) =>
      if starts stem name then some (s, name, text.map String.ofList) else none
  | '-' :: c :: rest =>
    g.named.filterMap fun (name, s) =>
      if name.toList = ['-', c] then some (s, name, some (String.ofList rest))
      else if starts arg name then some (s, name, none)
      else none
  | _ => []

/-- Whether an argument is a negative number. -/
def isNegative (arg : List Char) : Bool :=
  match arg with
  | '-' :: cs =>
    let whole := cs.takeWhile Char.isDigit
    match cs.dropWhile Char.isDigit with
    | [] => !whole.isEmpty
    | '.' :: digits => !digits.isEmpty && digits.all Char.isDigit
    | _ => false
  | _ => false

/-- Classifies one argument. -/
def item (g : Grammar) (arg : String) : Except Stop Item :=
  match arg.toList with
  | '-' :: second :: tail =>
    let cs := '-' :: second :: tail
    match g.find? arg with
    | some s => .ok (.switch s arg none)
    | none =>
      let (stem, text) := splitText cs
      match g.find? (String.ofList stem), text with
      | some s, some t => .ok (.switch s (String.ofList stem) (some (String.ofList t)))
      | _, _ =>
        match g.candidates cs with
        | [(s, name, t)] => .ok (.switch s name t)
        | [] => .ok (if isNegative cs || cs.contains ' ' then .operand arg else .unknown arg)
        | several => .error (.problem ("ambiguous option: " ++ arg ++ " could match "
            ++ ", ".intercalate (several.map fun c => c.2.1)))
  | _ => .ok (.operand arg)

/-- Classifies all arguments; behind two dashes everything is an operand. -/
def items (g : Grammar) : List String → Except Stop (List Written)
  | [] => .ok []
  | arg :: rest =>
    if arg == "--" then .ok ((.dashes, arg) :: rest.map fun a => (.operand a, a))
    else do
      let i ← g.item arg
      let more ← g.items rest
      .ok ((i, arg) :: more)

/-- The problem of a switch with its text. -/
def misused {α : Type} (s : Switch) (text : String) : Except Stop α :=
  .error (.problem ("argument " ++ s.title ++ ": " ++ text))

/-- A text that a switch does not take, in a message. The text is shown by `quote`. -/
def ignored {α : Type} (quote : String → String) (s : Switch) (text : String) : Except Stop α :=
  misused s ("ignored explicit argument " ++ quote text)

/-- The switches that are written together behind one dash; the last may take the rest as its
text, or is still without a text. -/
def together (quote : String → String) (g : Grammar) (s : Switch) :
    List Char → Except Stop (List (Switch × Option String))
  | [] => .ok [(s, none)]
  | c :: rest =>
    if s.takesText then .ok [(s, some (String.ofList (c :: rest)))]
    else
      match g.find? (String.ofList ['-', c]) with
      | some next => do .ok ((s, none) :: (← g.together quote next rest))
      | none => ignored quote s (String.ofList (c :: rest))

/-- The switches that one argument stands for. -/
def expand (quote : String → String) (g : Grammar) (s : Switch) (name : String) :
    Option String → Except Stop (List (Switch × Option String))
  | none => .ok [(s, none)]
  | some text =>
    if s.takesText then .ok [(s, some text)]
    else if name.startsWith "--" || text.isEmpty then ignored quote s text
    else g.together quote s text.toList

/-- Whether a switch asks for help. -/
def isHelp (g : Grammar) (s : Switch) : Bool := g.switches.head? == some s

/-- Uses switches in order. -/
def use (g : Grammar) (r : Reading) : List (Switch × String) → Except Stop Reading
  | [] => .ok r
  | (s, text) :: rest =>
    if g.isHelp s then .error .help else g.use { r with used := r.used ++ [(s, text)] } rest

/-- Takes the text of the last of some switches, which may be the next argument. The second part of
the answer tells whether it was. -/
def settle (switches : List (Switch × Option String)) (next : Option Written) :
    Except Stop (List (Switch × String) × Bool) :=
  match switches.getLast? with
  | some (s, none) =>
    let before := switches.dropLast.map fun (s, t) => (s, t.getD "")
    if s.takesText then
      match next with
      | some (.operand text, _) => .ok (before ++ [(s, text)], true)
      | _ => misused s "expected one argument"
    else .ok (before ++ [(s, "")], false)
  | _ => .ok (switches.map fun (s, t) => (s, t.getD ""), false)

/-- Reads classified arguments. Two dashes beside the operand vanish. -/
def consume (quote : String → String) (g : Grammar) (place : Place) (r : Reading) :
    List Written → Except Stop Reading
  | [] =>
    match g.operands, place with
    | .one title, .waiting =>
      .error (.problem ("the following arguments are required: " ++ title))
    | _, _ => .ok r
  | (.switch s name text, _) :: rest => do
    let switches ← g.expand quote s name text
    let (used, taken) ← settle switches rest.head?
    let r ← g.use r used
    let place := if place = .filled then .closed else place
    g.consume quote place r (rest.drop taken.toNat)
  | (.unknown _, written) :: rest =>
    let place := if place = .filled then .closed else place
    g.consume quote place (r.leave written) rest
  | (.operand text, written) :: rest =>
    match place, g.operands with
    | .waiting, .rest => .ok { r with operands := written :: rest.map (·.2) }
    | .waiting, _ => g.consume quote .filled { r with operands := [text] } rest
    | _, _ => g.consume quote .closed (r.leave written) rest
  | (.dashes, written) :: rest =>
    match place, g.operands, rest.isEmpty with
    | .waiting, .rest, false => .ok { r with operands := written :: rest.map (·.2) }
    | .waiting, .one _, false => g.consume quote .waiting r rest
    | .waiting, _, _ => g.consume quote .waiting (r.leave written) rest
    | .filled, _, _ => g.consume quote .closed r rest
    | .closed, _, _ => g.consume quote .closed (r.leave written) rest
termination_by items => items.length
decreasing_by all_goals simp only [List.length_cons, List.length_drop]; omega

/-- **Reads** arguments. -/
def read (quote : String → String) (g : Grammar) (args : List String) : Except Stop Reading := do
  let place := if g.operands = .nothing then .closed else .waiting
  g.consume quote place ⟨[], [], []⟩ (← g.items args)

end Grammar

end OrderedScope.CommandLine
