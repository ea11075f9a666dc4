import OrderedScope.World

/-!
# Files of Settings

Where settings are looked for: the nearest directory, from a start upwards, in which the settings
file stands. A path is the list of names from the root of the tree; a path that leaves the tree has
no settings.

## Main results

* `nearest?_eq_some_iff`, `nearest?_eq_none_iff`: the directory that is found lies on the way to the
  start, holds the file, and is the deepest that does.
-/

namespace OrderedScope

namespace FileTree

/-- The text of the file at a path; of two files written to one path the later counts. -/
def read? (t : FileTree) (path : List String) : Option String :=
  (t.files.reverse.find? fun f => f.1 == path).map (·.2)

/-- Whether a file stands at a path. -/
def isFile (t : FileTree) (path : List String) : Bool := (t.read? path).isSome

end FileTree

namespace Settings

/-- The name of the settings file. -/
def fileName : String := Error.settingsFile

/-- The name of the file with the local settings, beside the settings file. -/
def localFileName : String := ".symbiosis.local.toml"

/-- How the root of the tree is shown. -/
def rootText : String := "<root>"

/-- How a path is shown. -/
def pathText (path : List String) : String := "/".intercalate (rootText :: path)

/-- A path without its steps upwards; `none` if it leaves the tree. -/
def normalize (path : List String) : Option (List String) :=
  path.foldlM (fun done part =>
    if part = ".." then if done.isEmpty then none else some done.dropLast
    else some (done ++ [part])) []

/-- The directory **above** a directory; the root is above itself. -/
def parent (path : List String) : List String := path.dropLast

/-- A directory that is not above itself lies **deeper** than the one above it. -/
theorem length_parent_lt {path : List String} (h : parent path ≠ path) :
    (parent path).length < path.length := by
  cases path with
  | nil => exact absurd rfl h
  | cons name rest => simp [parent]

/-- Only the root is above itself. -/
theorem eq_nil_of_parent_eq {path : List String} (h : parent path = path) : path = [] := by
  rcases List.eq_nil_or_concat path with rfl | ⟨above, name, rfl⟩
  · rfl
  · simpa [parent] using congrArg List.length h

/-- The **nearest** directory, from one upwards, that holds the settings file. The search has
reached the root where a directory is above itself. -/
def nearest? (t : FileTree) (current : List String) : Option (List String) :=
  if t.isFile (current ++ [fileName]) then some current
  else if h : parent current = current then none
  else
    have := length_parent_lt h
    nearest? t (parent current)
termination_by current.length

/-- The directory that a search starts in, as it was given. -/
def startPath (t : FileTree) (start : Option (List String)) : List String :=
  start.getD t.current

/-- The directory of the settings file for a start. -/
def directory? (t : FileTree) (start : Option (List String)) : Option (List String) :=
  (normalize (startPath t start)).bind (nearest? t)

/-- What lies on the way to a directory is the directory, or lies **on the way to the one above
it**. -/
theorem prefix_iff_parent {d path : List String} :
    d <+: path ↔ d = path ∨ d <+: parent path := by
  rcases List.eq_nil_or_concat path with rfl | ⟨above, name, rfl⟩
  · simp [parent]
  · rw [parent, List.concat_eq_append, List.dropLast_concat]
    exact List.prefix_concat_iff

/-- The directory that is found lies on the way to the start, holds the file, and is the **deepest**
that does. -/
theorem nearest?_eq_some_iff {t : FileTree} {start found : List String} :
    nearest? t start = some found ↔ found <+: start ∧ t.isFile (found ++ [fileName]) = true ∧
      ∀ d, d <+: start → t.isFile (d ++ [fileName]) = true → d <+: found := by
  fun_induction nearest? t start with
  | case1 current here =>
    constructor
    · rintro ⟨⟩
      exact ⟨List.prefix_rfl, here, fun d hd _ => hd⟩
    · rintro ⟨above, -, deepest⟩
      exact congrArg some ((deepest current List.prefix_rfl here).eq_of_length_le above.length_le)
  | case2 current absent root =>
    obtain rfl := eq_nil_of_parent_eq root
    refine ⟨nofun, fun ⟨above, holds, _⟩ => ?_⟩
    obtain rfl := List.prefix_nil.1 above
    exact absurd holds absent
  | case3 current absent root deeper ih =>
    have below {d : List String} (holds : t.isFile (d ++ [fileName]) = true) :
        d <+: current ↔ d <+: parent current :=
      prefix_iff_parent.trans (or_iff_right fun same => absent (same ▸ holds))
    rw [ih]
    exact ⟨fun ⟨above, holds, deepest⟩ => ⟨(below holds).2 above, holds,
        fun d hd file => deepest d ((below file).1 hd) file⟩,
      fun ⟨above, holds, deepest⟩ => ⟨(below holds).1 above, holds,
        fun d hd file => deepest d ((below file).2 hd) file⟩⟩

/-- No directory is found if **none** on the way to the start holds the file. -/
theorem nearest?_eq_none_iff {t : FileTree} {start : List String} :
    nearest? t start = none ↔ ∀ d, d <+: start → t.isFile (d ++ [fileName]) = false := by
  constructor
  · intro missed d hd
    fun_induction nearest? t start with
    | case1 current here => cases missed
    | case2 current absent root =>
      obtain rfl := eq_nil_of_parent_eq root
      obtain rfl := List.prefix_nil.1 hd
      exact Bool.eq_false_iff.2 absent
    | case3 current absent root deeper ih =>
      obtain rfl | above := prefix_iff_parent.1 hd
      · exact Bool.eq_false_iff.2 absent
      · exact ih missed above
  · intro none
    refine Option.eq_none_iff_forall_ne_some.2 fun found hit => ?_
    obtain ⟨above, holds, -⟩ := nearest?_eq_some_iff.1 hit
    exact Bool.false_ne_true ((none found above).symm.trans holds)

end Settings

end OrderedScope
