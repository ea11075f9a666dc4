/-!
# Directions

Three groups of contexts answer the names of a closure: those supplied by the caller, the one the
closure was written in, and the one shared by all. A **direction** is one of the six orders of the
three groups. It is written by the first letters of its groups.

## Main results

* `Direction.groups_perm`: each group occurs in a direction exactly once.
* `Direction.ofGroups?_eq_some_iff`: a list of groups is a direction exactly if it lists that
  direction's groups.
* `filter_arrange`: the arranged contexts of a group are those supplied for it.
-/

namespace OrderedScope

/-- The three **groups** of contexts. -/
inductive Group where
  | inner
  | outer
  | kernel
deriving DecidableEq, Repr

namespace Group

/-- All groups, in their order of declaration. -/
def all : List Group := [inner, outer, kernel]

/-- The name of a group. -/
def name : Group → String
  | inner => "inner"
  | outer => "outer"
  | kernel => "kernel"

/-- The name of a group in upper case. -/
def title : Group → String
  | inner => "INNER"
  | outer => "OUTER"
  | kernel => "KERNEL"

/-- The letter of a group in the name of a direction. -/
def letter : Group → Char
  | inner => 'I'
  | outer => 'O'
  | kernel => 'K'

/-- The group of a given name. -/
def ofName? (s : String) : Option Group := all.find? fun g => g.name == s

/-- The group of a letter: in upper or lower case; the dotless `ı` counts as an `I`. -/
def ofLetter? (c : Char) : Option Group :=
  if c = 'I' || c = 'i' || c = 'ı' then some inner
  else if c = 'O' || c = 'o' then some outer
  else if c = 'K' || c = 'k' then some kernel
  else none

/-- A group is found by its name. -/
theorem ofName?_name (g : Group) : ofName? g.name = some g := by
  cases g <;> decide

end Group

/-- The name of an order of groups: their letters, highest rank first. -/
def lettersOf (groups : List Group) : String := String.ofList (groups.map Group.letter)

/-- The groups spelled by a word, if all its letters are letters of groups. -/
def Group.ofLetters? (word : String) : Option (List Group) := word.toList.mapM Group.ofLetter?

/-- The contexts in the order of the given groups, each beside its group: the inner contexts as they
were supplied, one outer and one kernel context. -/
def arrange {α : Type} (groups : List Group) (inner : List α) (outer kernel : α) :
    List (Group × α) :=
  groups.flatMap fun
    | .inner => inner.map (Group.inner, ·)
    | .outer => [(.outer, outer)]
    | .kernel => [(.kernel, kernel)]

/-- The contexts in the order of the given groups. -/
def flatten {α : Type} (groups : List Group) (inner : List α) (outer kernel : α) : List α :=
  (arrange groups inner outer kernel).map (·.2)

/-- The six **directions**, named by the letters of their groups. -/
inductive Direction where
  | iok
  | oik
  | oki
  | iko
  | koi
  | kio
deriving DecidableEq, Repr

namespace Direction

/-- All directions, in the order in which they are listed. -/
def all : List Direction := [iok, oik, oki, iko, koi, kio]

/-- The groups of a direction, highest rank first. -/
def groups : Direction → List Group
  | iok => [.inner, .outer, .kernel]
  | oik => [.outer, .inner, .kernel]
  | oki => [.outer, .kernel, .inner]
  | iko => [.inner, .kernel, .outer]
  | koi => [.kernel, .outer, .inner]
  | kio => [.kernel, .inner, .outer]

/-- The name of a direction: the letters of its groups. -/
def name (d : Direction) : String := lettersOf d.groups

/-- The direction that ranks the groups in the given order. -/
def ofGroups? (groups : List Group) : Option Direction := all.find? fun d => d.groups == groups

/-- The direction spelled by a word, in letters of either case. -/
def ofWord? (word : String) : Option Direction := (Group.ofLetters? word).bind ofGroups?

/-- The place of a direction in the list of all. -/
def index (d : Direction) : Nat := all.idxOf d

/-- Each group occurs in a direction **exactly once**. -/
theorem groups_perm (d : Direction) : d.groups.Perm Group.all := by
  cases d <;> decide

/-- A list of groups is a direction **exactly if** it lists that direction's groups. -/
theorem ofGroups?_eq_some_iff {groups : List Group} {d : Direction} :
    ofGroups? groups = some d ↔ d.groups = groups := by
  constructor
  · intro h
    simpa using List.find?_some h
  · rintro rfl
    cases d <;> decide

end Direction

/-! ### Arranged contexts -/

section Arrange

variable {α : Type} (inner : List α) (outer kernel : α)

/-- The contexts of a group are those supplied for it. -/
theorem filter_arrange (d : Direction) (g : Group) :
    (arrange d.groups inner outer kernel).filter (·.1 = g) =
      match g with
      | .inner => inner.map (Group.inner, ·)
      | .outer => [(.outer, outer)]
      | .kernel => [(.kernel, kernel)] := by
  have keep : inner.filter (fun _ => true) = inner := List.filter_eq_self.2 (by simp)
  cases d <;> cases g <;>
    simp [arrange, Direction.groups, List.filter_append, List.filter_map, Function.comp_def, keep]

end Arrange

end OrderedScope
