import OrderedScope.Resolution
import OrderedScope.Settings.Files

/-!
# Layers of Settings

Settings are laid over each other: the built-in ones, the defaults of the settings file, those of
the local file, the profile in use, and the same profile of the local file. A later layer wins;
where both layers hold tables, the tables are laid over each other.

## Main results

* `find?_overlay`: what a layered table holds under a name.
-/

namespace OrderedScope.Settings

mutual

/-- One value **laid over** another: only tables are merged. -/
def overlayValue : Value → Value → Value
  | .dict xs, .dict ys => .dict (overlayEntries xs ys ++ ys.filter fun e => !Members.has xs e.1)
  | _, y => y

/-- The entries of a table, with those of another laid over them. -/
def overlayEntries : List (String × Value) → Members → Members
  | [], _ => []
  | (name, x) :: rest, ys =>
    (name, match ys.find? name with
      | some y => overlayValue x y
      | none => x) :: overlayEntries rest ys

end

/-- One table **laid over** another. -/
def overlay (xs ys : Members) : Members :=
  overlayEntries xs ys ++ ys.filter fun e => !xs.has e.1

/-! ### Laws -/

/-- A name is sought in the first list, then in the second. -/
private theorem lookup_append {xs ys : Members} {name : String} :
    List.lookup name (xs ++ ys) = (List.lookup name xs).or (List.lookup name ys) := by
  induction xs with
  | nil => rfl
  | cons e rest ih =>
    obtain ⟨key, x⟩ := e
    simp only [List.cons_append, List.lookup_cons]
    split <;> simp_all

/-- An entry under a table is laid **under the entry** of its name. -/
private theorem lookup_overlayEntries {xs ys : Members} {name : String} :
    List.lookup name (overlayEntries xs ys)
      = (List.lookup name xs).map fun x =>
        match List.lookup name ys with
        | some y => overlayValue x y
        | none => x := by
  induction xs with
  | nil => simp [overlayEntries]
  | cons e rest ih =>
    obtain ⟨key, x⟩ := e
    simp only [overlayEntries, List.lookup_cons]
    split
    · next h =>
      obtain rfl : name = key := by simpa using h
      rfl
    · exact ih

/-- Entries of other names are kept under their names. -/
private theorem lookup_filter {xs ys : Members} {name : String} (h : xs.has name = false) :
    List.lookup name (ys.filter fun e => !xs.has e.1) = List.lookup name ys := by
  induction ys with
  | nil => rfl
  | cons e rest ih =>
    obtain ⟨key, y⟩ := e
    by_cases hk : name = key
    · subst hk; simp [h]
    · by_cases hx : xs.has key
      · simp [hx, ih, List.lookup_cons, beq_false_of_ne hk]
      · simp [hx, ih, List.lookup_cons, beq_false_of_ne hk]

/-- What a layered table **holds** under a name. -/
theorem find?_overlay (xs ys : Members) (name : String) :
    (overlay xs ys).find? name =
      match xs.find? name, ys.find? name with
      | some x, some y => some (overlayValue x y)
      | some x, none => some x
      | none, y => y := by
  unfold overlay Members.find?
  rw [lookup_append, lookup_overlayEntries]
  cases hx : List.lookup name xs with
  | none =>
    have : xs.has name = false := Members.find?_eq_none_iff.1 hx
    simp [lookup_filter this]
  | some x => cases hy : List.lookup name ys <;> simp

/-! ### Reading tables -/

/-- A table as a table of members; anything else lacks the given attribute. -/
def tableOf (needed : String) (v : Value) : Run Members :=
  match v with
  | .dict m => pure m
  | _ => do Run.raise (.noAttribute (← classNameOf v) needed)

/-- The value of a key of a table, or a default. -/
def entryOr (v : Value) (key : String) (default : Value) : Run Value := do
  pure (((← tableOf "get" v).find? key).getD default)

/-- One element of a sequence of pairs, as an entry of a table. -/
def pairOf (index : Nat) (v : Value) : Run (String × Value) := do
  let wrongLength (n : Nat) : Error := .misuse .value ("dictionary update sequence element #"
    ++ toString index ++ " has length " ++ toString n ++ "; 2 is required")
  match v with
  | .str s =>
    match s.toList with
    | [k, x] => pure (k.toString, .str x.toString)
    | cs => Run.raise (wrongLength cs.length)
  | .list [k, x] =>
    match k with
    | .str s => pure (s, x)
    | _ => do if k.isHashable then pure ("", x) else Run.raise (.unhashable (← classNameOf k))
  | .list items => Run.raise (wrongLength items.length)
  | .dict entries => Run.raise (wrongLength entries.length)
  | _ => Run.raise (.misuse .type ("cannot convert dictionary update sequence element #"
      ++ toString index ++ " to a sequence"))

/-- A value as a table: a table is its own; else it is read as a sequence of pairs. -/
def asTable (v : Value) : Run Members := do
  match v with
  | .dict m => pure m
  | _ => do
    let pairs ← (← v.items).zipIdx.mapM fun (x, i) => pairOf i x
    pure (pairs.foldl (fun m e => m.put e.1 e.2) [])

/-- The names in a table of settings, which must be hashable. -/
def settingKeys (v : Value) : Run (List Value) := do
  let items ← v.items
  for x in items do
    if !x.isHashable then Run.raise (.unhashable (← classNameOf x))
  pure items

/-- The error of a table with unknown settings; unknown names that are no texts cannot be listed. -/
def unknownError (place : String) (unknown : List Value) : Run Error := do
  let texts := unknown.filterMap fun
    | .str s => some s
    | _ => none
  match unknown.find? fun v => !(v matches .str _) with
  | none => pure (.unknownSettings place (texts.eraseDups.mergeSort fun a b => decide (a ≤ b)))
  | some other =>
    let name ← classNameOf other
    if texts.isEmpty then
      pure (.misuse .type ("sequence item 0: expected str instance, " ++ name ++ " found"))
    else pure (.misuse .type ("'<' not supported between instances of "
      ++ Text.encloseUpTo 100 name ++ " and 'str'"))

/-- A **table of settings**: nothing but settings stands in it. -/
def settingsOf (place : String) (v : Value) : Run Members := do
  let keys ← settingKeys v
  let unknown := keys.filter fun
    | .str s => !Error.settingNames.contains s
    | _ => true
  if unknown.isEmpty then asTable v else Run.raise (← unknownError place unknown)

/-! ### Configurations -/

/-- The settings that hold where nothing else is said. -/
def builtin : Members :=
  [("direction", .str Direction.iok.name), ("visibility", .str "public"),
    ("kernel", .str "builtins")]

/-- A **configuration**: the project, the defaults, the profiles, and the local settings. -/
structure Config where
  projectName : Value
  defaultProfile : Value
  defaults : Members
  profiles : List (String × Members)
  localTables : Members

/-- The tables of a value, each a table of settings. -/
def profilesOf (v : Value) (place : String → String) : Run (List (String × Members)) := do
  (← tableOf "items" v).mapM fun (name, raw) => do pure (name, ← settingsOf (place name) raw)

/-- The place of a local table in messages. -/
def localPlace (place : String) : String := place ++ " of " ++ localFileName

/-- The place of a profile in messages. -/
def profilePlace (name : String) : String := "[profiles." ++ name ++ "]"

/-- The tables of the local document, which may be left out. -/
def givenTables (localDocument : Value) : Run Members := do
  if ← localDocument.plainTruth then asTable localDocument else pure []

/-- The tables of the local document, the defaults among them checked. -/
def checkDefaults (tables : Members) : Run Members :=
  match tables.find? "defaults" with
  | some raw => do
    pure (tables.put "defaults" (.dict (← settingsOf (localPlace "[defaults]") raw)))
  | none => pure tables

/-- The tables of the local document, the profiles among them checked. -/
def checkProfiles (tables : Members) : Run Members :=
  match tables.find? "profiles" with
  | some raw => do
    let checked ← profilesOf raw fun name => localPlace (profilePlace name)
    pure (tables.put "profiles" (.dict (checked.map fun (name, m) => (name, .dict m))))
  | none => pure tables

/-- A configuration from the main document and the local one. -/
def Config.ofDocuments (main : Value) (localDocument : Value) : Run Config := do
  let project ← entryOr main "project" (.dict [])
  let name ← entryOr project "name" (.str "")
  let profile ← entryOr project "default_profile" .none
  let defaults ← settingsOf "[defaults]" (← entryOr main "defaults" (.dict []))
  let profiles ← profilesOf (← entryOr main "profiles" (.dict [])) profilePlace
  let tables ← checkProfiles (← checkDefaults (← givenTables localDocument))
  pure ⟨name, profile, defaults, profiles, tables⟩

/-- The settings of one profile, resolved. -/
structure Resolved where
  projectName : Value
  defaultProfile : Value
  profile : Value
  direction : Direction
  visibility : String
  kernel : String

/-- The local table under a name. -/
def Config.localTable (c : Config) (name : String) : Value :=
  (c.localTables.find? name).getD (.dict [])

/-- The profile in use: the given one, else the default one of the local file, else that of the
main file. -/
def Config.profileInUse (run : Runner) (c : Config) (given : Value) : Run Value := do
  if ← given.truthy run then pure given
  else entryOr (c.localTable "project") "default_profile" c.defaultProfile

/-- The settings of a profile, laid over the settings before it. -/
def Config.withProfile (run : Runner) (c : Config) (settings : Members) (profile : Value) :
    Run Members := do
  let known ← match profile with
    | .str name => pure (c.profiles.lookup name)
    | v => do if v.isHashable then pure none else Run.raise (.unhashable (← classNameOf v))
  match known, profile with
  | some own, .str name =>
    let more ← entryOr (c.localTable "profiles") name (.dict [])
    pure (overlay (overlay settings own) (← tableOf "keys" more))
  | _, _ => do
    let names := (c.profiles.map (·.1)).mergeSort fun a b => decide (a ≤ b)
    Run.raise (.unknownProfile (← profile.quotedText run) names)

/-- The direction that is set, which must be one. -/
def directionOf (run : Runner) (wanted : Value) : Run Direction := do
  match ← Direction.take? run wanted with
  | some x => Direction.ofAccepted run x
  | none => do Run.raise (.configuredDirection wanted (← wanted.quotedText run))

/-- The name and the default profile of the project, those of the local file in front. -/
def Config.project (c : Config) : Run (Value × Value) := do
  let project := c.localTable "project"
  if ← project.plainTruth then
    pure (← entryOr project "name" c.projectName,
      ← entryOr project "default_profile" c.defaultProfile)
  else pure (c.projectName, c.defaultProfile)

/-- The settings of a profile, **settled**. -/
def Config.settle (run : Runner) (c : Config) (profile : Value) (settings : Members) :
    Run Resolved := do
  let setting (name : String) : Value := (settings.find? name).getD .none
  let direction ← directionOf run (setting "direction")
  let (name, default) ← c.project
  let visibility ← (setting "visibility").plainText run
  let kernel ← (setting "kernel").plainText run
  pure ⟨name, default, profile, direction, visibility, kernel⟩

/-- **Resolves** the settings of a profile. -/
def Config.resolve (run : Runner) (c : Config) (given : Value) : Run Resolved := do
  let profile ← c.profileInUse run given
  let settings := overlay builtin c.defaults
  let settings := overlay settings (← tableOf "keys" (c.localTable "defaults"))
  match profile with
  | .none => c.settle run profile settings
  | _ => do c.settle run profile (← c.withProfile run settings profile)

/-! ### Files -/

/-- Reads a file of settings, as the platform reads it. -/
def readFile (path : List String) : Run (Option Members) := do
  match (← Run.reading (·.files)).read? path with
  | none => pure none
  | some text =>
    match (← Run.reading (·.platform)).readDocument text with
    | some m => pure (some m)
    | none => Run.raise .malformedDocument

/-- The **configuration** of the nearest directory with a settings file, with the local file beside
it; `none` if there is no settings file. -/
def load? (start : Option (List String)) : Run (Option Config) := do
  match directory? (← Run.reading (·.files)) start with
  | none => pure none
  | some d =>
    let main := (← readFile (d ++ [fileName])).getD []
    let tables := (← readFile (d ++ [localFileName])).getD []
    Run.log .debug ("Loaded " ++ pathText (d ++ [fileName]) ++ " (local overrides: "
      ++ Strategy.flag (!tables.isEmpty) ++ ")")
    some <$> Config.ofDocuments (.dict main) (.dict tables)

/-- The configuration for a start, which must have a settings file. -/
def load (start : Option (List String)) : Run Config := do
  match ← load? start with
  | some c => pure c
  | none => do
    let shown := pathText (startPath (← Run.reading (·.files)) start)
    Run.raise (.noSettingsFile shown)

/-- The **settings** for a start: without a settings file the built-in ones, as long as no profile
is asked for. -/
def resolve (run : Runner) (profile : Value) (start : Option (List String)) : Run Resolved := do
  match ← load? start, profile with
  | some c, _ => c.resolve run profile
  | none, .none => do
    Run.log .debug ("No " ++ fileName ++ " found; using built-in defaults")
    (← Config.ofDocuments (.dict []) (.dict [])).resolve run .none
  | none, _ => do Run.raise (.profileWithoutFile (← profile.quotedText run))

end OrderedScope.Settings
