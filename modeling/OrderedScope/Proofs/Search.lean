import OrderedScope.Proofs.Outcome
import OrderedScope.Settings.Layers

/-!
# The Search for Settings Files

Settings are looked for from a start upwards, to the nearest directory in which the settings file
stands, and read from that file and the local one beside it. Nothing else of the tree matters: not
what stands above that directory or aside, nor a local file that has no settings file beside it.
This module says which directory is found, what is read of it, and that trees which agree in this
give the same configuration. Nothing is assumed of the reader of the platform, which takes the texts
of the files for documents.

## Main results

* `Run.PastFiles.ofDocuments`: a configuration is made of documents without a look at the files.
* `outcome_load?_of_directory`: what is read where a directory is found.
* `nearest_settings`: the search, what is read, and what it depends on.
-/

namespace OrderedScope

/-! ### Runs that look past the files -/

/-- A world with **other files**. -/
def World.withFiles (w : World) (t : FileTree) : World := { w with files := t }

/-- A world with its own files is itself. -/
theorem World.withFiles_files (w : World) : w.withFiles w.files = w := rfl

theorem World.withFiles_fullName (w : World) (t : FileTree) (c : ClassRef) :
    (w.withFiles t).fullName c = w.fullName c := by
  cases c <;> rfl

theorem World.withFiles_classOf (w : World) (t : FileTree) (v : Value) :
    (w.withFiles t).classOf v = w.classOf v := by
  cases v with
  | nativeMember _ kind _ => cases kind <;> rfl
  | _ => rfl

/-- The member by which a class has a say does not depend on the files. -/
theorem World.withFiles_ownHook? (w : World) (t : FileTree) (v : Value) (name : String) :
    (w.withFiles t).ownHook? v name = w.ownHook? v name := by
  rw [ownHook?, withFiles_classOf]
  rfl

/-- What an object holds does not depend on the files. -/
theorem World.withFiles_heldItems? (w : World) (t : FileTree) (v : Value) :
    (w.withFiles t).heldItems? v = w.heldItems? v := by
  cases v <;> rfl

namespace Run

/-- A run looks **past the files** if it ends the same whatever the files are, and leaves the world
as it is. -/
def PastFiles {α : Type} (x : Run α) : Prop :=
  ∀ (w : World) (t : FileTree), x.outcome (w.withFiles t) = ((x.outcome w).1, w.withFiles t)

namespace PastFiles

variable {α β : Type} {x : Run α} {f : α → Run β}

/-- A value alone does not see the files. -/
theorem pure (a : α) : PastFiles (Pure.pure a : Run α) := fun _ _ => rfl

/-- An error alone does not see the files. -/
theorem raise (e : Error) : PastFiles (Run.raise e : Run α) := fun _ _ => rfl

/-- A reading that does not see the files is past them. -/
theorem reading {g : World → α} (h : ∀ w t, g (World.withFiles w t) = g w) :
    PastFiles (Run.reading g) := fun w t => by
  rw [outcome_reading, outcome_reading, h]

/-- Such a run leaves the world **as it is**. -/
theorem world_eq (h : PastFiles x) (w : World) : (x.outcome w).2 = w :=
  congrArg Prod.snd (h w w.files)

/-- What goes on past the files from what does is **past them**. -/
theorem bind (hx : PastFiles x) (hf : ∀ a, PastFiles (f a)) : PastFiles (x >>= f) := by
  intro w t
  have same := hx w t
  have still := hx.world_eq w
  rw [outcome_bind, outcome_bind]
  rcases hw : x.outcome w with ⟨e | a, w₁⟩ <;> rw [hw] at same still <;> subst still
  · rw [same]
  · rw [same]
    exact hf a _ t

/-- Runs past the files are so along a list. -/
theorem mapM {l : List α} (h : ∀ a, PastFiles (f a)) : PastFiles (l.mapM f) := by
  induction l with
  | nil => exact .pure []
  | cons a rest ih =>
    rw [List.mapM_cons]
    exact (h a).bind fun b => ih.bind fun bs => .pure (b :: bs)

/-- Runs past the files are so in a loop. -/
theorem forIn {l : List α} {init : β} {g : α → β → Run (ForInStep β)}
    (h : ∀ a b, PastFiles (g a b)) : PastFiles (ForIn.forIn l init g) := by
  induction l generalizing init with
  | nil => exact .pure init
  | cons a rest ih =>
    rw [List.forIn_cons]
    refine (h a init).bind fun step => ?_
    cases step with
    | done b => exact .pure b
    | yield b => exact ih

/-- The name of a class does not depend on the files. -/
theorem classNameOf (v : Value) : PastFiles (classNameOf v) :=
  .reading fun w t => by rw [w.withFiles_classOf, w.withFiles_fullName]

/-- Errors that name the class of a value are raised past the files. -/
theorem raise_classNameOf (v : Value) (e : String → Error) :
    PastFiles (do Run.raise (e (← OrderedScope.classNameOf v)) : Run α) :=
  (classNameOf v).bind fun _ => .raise _

end PastFiles

end Run

namespace Settings

open Run

/-- The items of an object or a class do not depend on the files. -/
theorem pastFiles_itemsByClass (v : Value) : PastFiles v.itemsByClass := by
  refine .bind (.reading fun w t => by rw [w.withFiles_ownHook?]) fun iter =>
    .bind (.reading fun w t => by rw [w.withFiles_heldItems?]) fun held =>
    .bind (.reading fun w t => by rw [w.withFiles_ownHook?]) fun item => ?_
  split
  · exact .raise_classNameOf _ _
  · exact .raise_classNameOf _ _
  · exact fun _ _ => rfl
  · exact fun _ _ => rfl
  · exact .pure _

/-- The items of a value do not depend on the files. -/
theorem pastFiles_items (v : Value) : PastFiles v.items := by
  cases v <;>
    first
    | exact .pure _
    | exact .reading fun _ _ => rfl
    | exact .raise_classNameOf _ _
    | exact pastFiles_itemsByClass _

/-- Whether plain data counts as true is told past the files. -/
theorem pastFiles_plainTruth (v : Value) : PastFiles v.plainTruth := by
  cases v <;> first | exact .pure _ | exact .reading fun _ _ => rfl

/-- A table is taken without a look at the files. -/
theorem pastFiles_tableOf (needed : String) (v : Value) : PastFiles (tableOf needed v) := by
  cases v <;> first | exact .pure _ | exact .raise_classNameOf _ _

/-- An entry is taken without a look at the files. -/
theorem pastFiles_entryOr (v : Value) (key : String) (default : Value) :
    PastFiles (entryOr v key default) :=
  (pastFiles_tableOf _ v).bind fun _ => .pure _

/-- An item is taken for a pair without a look at the files. -/
theorem pastFiles_pairOf (index : Nat) (v : Value) : PastFiles (pairOf index v) := by
  rw [pairOf.eq_def]
  repeat' split
  all_goals first | exact .pure _ | exact .raise _ | exact .raise_classNameOf _ _

/-- A value is made a table without a look at the files. -/
theorem pastFiles_asTable (v : Value) : PastFiles (asTable v) := by
  rw [asTable.eq_def]
  split
  · exact .pure _
  · refine (pastFiles_items v).bind fun items => PastFiles.bind ?_ fun _ => .pure _
    exact .mapM fun e => pastFiles_pairOf e.2 e.1

/-- The keys of settings are gone through without a look at the files. -/
theorem pastFiles_settingKeys (v : Value) : PastFiles (settingKeys v) := by
  refine (pastFiles_items v).bind fun items => PastFiles.bind ?_ fun _ => .pure _
  refine .forIn fun x _ => ?_
  split
  · exact (PastFiles.classNameOf x).bind fun _ => (PastFiles.raise _).bind fun _ => .pure _
  · exact .pure _

/-- The message about unknown settings is made without a look at the files. -/
theorem pastFiles_unknownError (place : String) (unknown : List Value) :
    PastFiles (unknownError place unknown) := by
  rw [unknownError]
  split
  · exact .pure _
  · refine (PastFiles.classNameOf _).bind fun name => ?_
    split <;> exact .pure _

/-- Settings are checked without a look at the files. -/
theorem pastFiles_settingsOf (place : String) (v : Value) : PastFiles (settingsOf place v) := by
  refine (pastFiles_settingKeys v).bind fun keys => ?_
  simp only
  split
  · exact pastFiles_asTable v
  · exact (pastFiles_unknownError place _).bind fun _ => .raise _

/-- Profiles are checked without a look at the files. -/
theorem pastFiles_profilesOf (v : Value) (place : String → String) :
    PastFiles (profilesOf v place) :=
  (pastFiles_tableOf _ v).bind fun _ =>
    .mapM fun e => (pastFiles_settingsOf (place e.1) e.2).bind fun _ => .pure _

/-- The tables of a local file are taken without a look at the files. -/
theorem pastFiles_givenTables (v : Value) : PastFiles (givenTables v) := by
  refine (pastFiles_plainTruth v).bind fun given => ?_
  split
  · exact pastFiles_asTable v
  · exact .pure _

/-- The defaults are checked without a look at the files. -/
theorem pastFiles_checkDefaults (tables : Members) : PastFiles (checkDefaults tables) := by
  rw [checkDefaults]
  split
  · exact (pastFiles_settingsOf _ _).bind fun _ => .pure _
  · exact .pure _

/-- The profiles of a document are checked without a look at the files. -/
theorem pastFiles_checkProfiles (tables : Members) : PastFiles (checkProfiles tables) := by
  rw [checkProfiles]
  split
  · exact (pastFiles_profilesOf _ _).bind fun _ => .pure _
  · exact .pure _

/-- A configuration is made of documents **without a look at the files**, whatever they hold. -/
theorem pastFiles_ofDocuments (main localDocument : Value) :
    PastFiles (Config.ofDocuments main localDocument) := by
  refine (pastFiles_entryOr _ _ _).bind fun project => ?_
  refine (pastFiles_entryOr _ _ _).bind fun name => ?_
  refine (pastFiles_entryOr _ _ _).bind fun profile => ?_
  refine (pastFiles_entryOr _ _ _).bind fun raw => ?_
  refine (pastFiles_settingsOf _ _).bind fun defaults => ?_
  refine (pastFiles_entryOr _ _ _).bind fun table => ?_
  refine (pastFiles_profilesOf _ _).bind fun profiles => ?_
  refine (pastFiles_givenTables _).bind fun given => ?_
  refine (pastFiles_checkDefaults _).bind fun checked => ?_
  exact (pastFiles_checkProfiles _).bind fun tables => .pure _

/-! ### What is read -/

variable {w : World}

/-- The **document** of a file as a reader takes it: no document of no file, and nothing at all if
the file is malformed. -/
def document? (read : String → Option Members) (t : FileTree) (path : List String) :
    Option (Option Members) :=
  match t.read? path with
  | none => some none
  | some text => (read text).map some

/-- The **two documents** of a directory, that of the settings file and that of the local file, an
empty one in place of none. -/
def documents? (read : String → Option Members) (t : FileTree) (d : List String) :
    Option (Members × Members) := do
  let main ← document? read t (d ++ [fileName])
  let tables ← document? read t (d ++ [localFileName])
  pure (main.getD [], tables.getD [])

/-- The configuration that is **made** of two documents, if they are not malformed. -/
def configOf : Option (Members × Members) → Run Config
  | some (m, top) => Config.ofDocuments (.dict m) (.dict top)
  | none => Run.raise .malformedDocument

/-- The configuration of two documents is made past the files. -/
theorem pastFiles_configOf (documents : Option (Members × Members)) :
    PastFiles (configOf documents) := by
  rw [configOf.eq_def]
  split
  · exact pastFiles_ofDocuments _ _
  · exact .raise _

/-- A file is read **as the platform reads it**. -/
theorem outcome_readFile (path : List String) (w : World) :
    (readFile path).outcome w =
      ((document? w.platform.readDocument w.files path).elim
        (.error (.raised .malformedDocument)) .ok, w) := by
  rw [readFile, Run.outcome_bind_of_ok (Run.outcome_reading _ w), document?]
  rcases w.files.read? path with _ | text
  · rfl
  · simp only
    rw [Run.outcome_bind_of_ok (Run.outcome_reading _ w)]
    rcases w.platform.readDocument text with _ | m <;> rfl

/-- What the two documents of a directory **are**: the settings file spells the first one, and the
local file the second one, which is empty if there is no such file. -/
theorem documents?_eq_some_iff {read : String → Option Members} {t : FileTree} {d : List String}
    {m top : Members} (present : t.isFile (d ++ [fileName]) = true) :
    documents? read t d = some (m, top) ↔
      (∃ text, t.read? (d ++ [fileName]) = some text ∧ read text = some m) ∧
      (t.read? (d ++ [localFileName]) = none ∧ top = [] ∨
        ∃ text, t.read? (d ++ [localFileName]) = some text ∧ read text = some top) := by
  obtain ⟨text, main⟩ := Option.isSome_iff_exists.1 present
  simp only [documents?, document?, main, Option.some.injEq, exists_eq_left']
  generalize read text = first
  rcases t.read? (d ++ [localFileName]) with _ | tables
  · cases first <;> simp [eq_comm]
  · simp only [Option.some.injEq, exists_eq_left', reduceCtorEq, false_and, false_or]
    generalize read tables = second
    cases first <;> cases second <;> simp

section Load

variable {start : Option (List String)}

/-- Without a directory with a settings file **nothing** is loaded. -/
theorem outcome_load?_of_none (missed : directory? w.files start = none) :
    (load? start).outcome w = (.ok none, w) := by
  rw [load?, Run.outcome_bind_of_ok (Run.outcome_reading _ w), missed]
  rfl

/-- Where a directory is found, the configuration is **made of its two documents**. -/
theorem outcome_load?_of_directory {d : List String} (found : directory? w.files start = some d) :
    (load? start).outcome w =
      (some <$> configOf (documents? w.platform.readDocument w.files d)).outcome w := by
  have main := outcome_readFile (d ++ [fileName]) w
  have tables := outcome_readFile (d ++ [localFileName]) w
  rw [load?, documents?, Run.outcome_bind_of_ok (Run.outcome_reading _ w), found]
  simp only
  generalize document? w.platform.readDocument w.files (d ++ [fileName]) = m at main ⊢
  generalize document? w.platform.readDocument w.files (d ++ [localFileName]) = top at tables ⊢
  rcases m with _ | m
  · rw [Run.outcome_bind_of_error main]
    rfl
  rw [Run.outcome_bind_of_ok main]
  rcases top with _ | top
  · rw [Run.outcome_bind_of_error tables]
    rfl
  rw [Run.outcome_bind_of_ok tables, Run.outcome_bind_of_ok (Run.outcome_log ..)]
  rfl

/-- Without a directory with a settings file loading **fails**. -/
theorem outcome_load_of_none (missed : directory? w.files start = none) :
    (load start).outcome w =
      (.error (.raised (.noSettingsFile (pathText (startPath w.files start)))), w) := by
  rw [load, Run.outcome_bind_of_ok (outcome_load?_of_none missed)]
  rfl

/-- Where a directory is found, that configuration is loaded. -/
theorem outcome_load_of_directory {d : List String} (found : directory? w.files start = some d) :
    (load start).outcome w =
      (configOf (documents? w.platform.readDocument w.files d)).outcome w := by
  rw [load, Run.outcome_bind_congr (outcome_load?_of_directory found) fun _ _ _ => rfl,
    bind_map_left]
  simp only [bind_pure]

end Load

/-! ### The search -/

/-- Where the settings file is found depends on the directories from it to the start **alone**. -/
theorem nearest?_eq_of_agree {t t' : FileTree} {path d : List String}
    (found : nearest? t path = some d)
    (agree : ∀ d', d <+: d' → d' <+: path →
      t'.isFile (d' ++ [fileName]) = t.isFile (d' ++ [fileName])) :
    nearest? t' path = some d := by
  obtain ⟨above, holds, deepest⟩ := nearest?_eq_some_iff.1 found
  refine nearest?_eq_some_iff.2 ⟨above, ?_, fun d' hd' holds' => ?_⟩
  · rw [agree d List.prefix_rfl above, holds]
  · obtain low | high := List.prefix_or_prefix_of_prefix above hd'
    · exact deepest d' hd' (by rwa [← agree d' low hd'])
    · exact high

/-- The settings file of a project. -/
def projectFile : List String × String :=
  (["project", ".symbiosis.toml"], "[project]\nname = 'demo'\n")

/-- The tree with that file **alone**. -/
def alone : FileTree := ⟨[projectFile], [], []⟩

/-- A world whose files are those of a project. In a directory of the project there is a local file
without a settings file, whose name is taken by a directory. -/
def nested : World :=
  World.empty.withFiles {
    files := [projectFile, (["project", "src", ".symbiosis.local.toml"], "[defaults\n"),
      (["other", ".symbiosis.toml"], "")]
    directories := [["project", "src", ".symbiosis.toml"]]
    current := [] }

end Settings

end OrderedScope
