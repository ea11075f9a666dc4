import OrderedScope.Attribute.Wording

/-!
# Equality and Hashing

Whether a value equals a text or a group, and which number it is hashed to. A class of the world can
have a say in both: its functions are asked, in the order of the comparison, and they can run
anything and fail. Where no class has a say, texts are equal by their characters, and nothing else
equals a text.

A table is searched by the hash of a key first. Only what has the hash of an entry is compared with
it. What the platform hashes plain data to is left open.
-/

namespace OrderedScope

open Attribute (ask?)

namespace Value

/-! ### Equality -/

/-- Asks a value whether it **equals** another, if its class has a say in that. It may leave the
question open. -/
def asksEqual (run : Runner) (v other : Value) : Run (Option Bool) := do
  match ← ask? run v "__eq__" [other] with
  | .none | some (.foreign "NotImplementedType") => pure Option.none
  | some answer => some <$> answer.truthy run

/-- Whether a key **equals** a text: it is asked first. -/
def equalsText (run : Runner) (s : String) (key : Value) : Run Bool := do
  match ← asksEqual run key (.str s) with
  | some answer => pure answer
  | .none => Run.reading fun w => w.content? key == some s

/-- Whether a value **equals** a group: what is a text is compared by its characters, and only what
is none is asked. -/
def equalsGroup (run : Runner) (g : Group) (v : Value) : Run Bool := do
  match ← Run.reading (·.content? v) with
  | some s => pure (s == g.name)
  | .none => do pure ((← asksEqual run v (.group g)).getD false)

/-- Whether some values **equal** some groups, one by one. The values that have no partner are not
looked at. -/
def equalGroups (run : Runner) : List Group → List Value → Run Bool
  | g :: groups, v :: rest => do
    if ← equalsGroup run g v then equalGroups run groups rest else pure false
  | groups, rest => pure (groups.isEmpty && rest.isEmpty)

/-! ### Hashing -/

/-- The values whose hashes make up the hash of a value. -/
def hashedParts (w : World) : Value → List Value
  | .tuple items | .direction items => items
  | .bound f _ => [f]
  | .object i =>
    match w.payload? i with
    | some (.closure deferred outer) => [deferred, outer]
    | some (.items vs) => vs
    | _ => []
  | _ => []

/-- Whether a value is of a native class of values that **have no hash**, for they can change. -/
def refusesHash (w : World) : Value → Bool
  | .list _ | .growing _ | .dict _ | .proxy _ | .cell .. => true
  | .object i =>
    [.list, .dict, .space].any fun c => w.isSubclass (w.classOf (.object i)) (.native c)
  | _ => false

/-- The number that a hash function **gives**: a number that is too long is hashed again, and minus
one stands for an error. -/
def hashNumber (platform : Platform) (n : Int) : Int :=
  let h := if -lengthLimit - 1 ≤ n ∧ n ≤ lengthLimit then n else platform.hash (.int n)
  if h = -1 then -2 else h

/-- What a hash function gives, which must be a number. -/
def hashGiven (platform : Platform) (answer : Value) : Run Int :=
  match answer with
  | .int n => pure (hashNumber platform n)
  | .bool b => pure (if b then 1 else 0)
  | _ => Run.raise (.misuse .type "__hash__ method should return an integer")

/-- The hash of a value whose class leaves it to the platform. -/
def standardHash (run : Runner) (v : Value) : Run Int := do
  let w ← get
  if refusesHash w v then do Run.raise (.unhashable (← classNameOf v))
  else do
    for part in hashedParts w v do
      let _ ← run (.call (.nativeFn "hash") [part] [])
    pure (w.platform.hash ((w.content? v).elim v .str))

/-- The **hash** of a value. A class can refuse its instances a hash. -/
def hashOf (run : Runner) (v : Value) : Run Int := do
  match ← Run.reading (·.ownHook? v "__hash__") with
  | some .none => do Run.raise (.unhashable (← classNameOf v))
  | _ =>
    match ← ask? run v "__hash__" [] with
    | some answer => do hashGiven (← Run.reading (·.platform)) answer
    | .none => standardHash run v

end Value

namespace Group

/-- The first of some groups whose text under a naming **equals** a key. -/
def firstEqual (run : Runner) (naming : Group → String) (key : Value) :
    List Group → Run (Option Group)
  | [] => pure none
  | g :: rest => do
    if ← key.equalsText run (naming g) then pure (some g) else firstEqual run naming key rest

/-- The group under a key in a **table** of all groups by their texts: of those that have the hash
of the key the first that equals it. -/
def keyed (run : Runner) (naming : Group → String) (key : Value) : Run (Option Group) := do
  let h ← key.hashOf run
  let platform ← Run.reading (·.platform)
  firstEqual run naming key (all.filter fun g => platform.hash (.str (naming g)) = h)

/-- The group that an item **stands for**: the one under it in the table of all groups by name. What
cannot be looked up there, for a wrong type, is compared with each name. -/
def ofItem? (run : Runner) (item : Value) : Run (Option Group) :=
  Run.recover (·.isA .type)
    (Run.recover (·.isA .key) (keyed run name item) fun _ => pure none)
    fun _ => firstEqual run name item all

end Group

end OrderedScope
