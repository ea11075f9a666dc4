import OrderedScope.Proofs.Coercion
import OrderedScope.Proofs.Documents

/-!
# Faults of Settings Files

A settings file and the local file beside it can hold anything under any name. A profile is resolved
with both by asking one part after the other, and the first that is wrong ends it. This module says
which faults two documents have, in the order in which they are met, and that a profile is resolved
exactly if they have none.

## Main results

* `meets_ofDocuments`, `Config.Takes.meets_resolve`: the faults of two documents.
* `kind_of_faults`: what kinds of faults documents have.
* `resolve_faults`: how a profile is resolved, by the faults of the documents.
* `faults_not_value`: faults that are not reported as wrong values.
-/

namespace OrderedScope

namespace Settings

open Run

variable {w : World} {depth : Nat} {v : Value} {m top : Members}

/-! ### Making a configuration -/

/-- A table is **checked** under a name: it holds there what was read, and else what it held. -/
def Checked (m : Members) (name : String) (t tables : Members) : Prop :=
  part tables name = .dict t ∧ ∀ other ≠ name, tables.find? other = m.find? other

/-- What stands under a name, if anything, is read and **checked**. -/
theorem meets_check {α : Type} {read : Value → Run α} {f : α → Members} {name : String}
    (faultsOf : Value → List Kind) (g : Value → Members)
    (met : (read (part m name)).Meets w (faultsOf (part m name)) fun a => f a = g (part m name))
    (faultless : faultsOf (.dict []) = []) (empty : g (.dict []) = []) :
    (match m.find? name with
      | some raw => do pure (m.put name (.dict (f (← read raw))))
      | none => pure m : Run Members).Meets w (faultsOf (part m name))
      (Checked m name (g (part m name))) := by
  rcases found : m.find? name with _ | raw
  · have none : part m name = .dict [] := by rw [part, found, Option.getD_none]
    rw [none, faultless, empty]
    exact .of_ok rfl ⟨none, fun _ _ => rfl⟩
  · have same : part m name = raw := by rw [part, found, Option.getD_some]
    rw [same] at met ⊢
    refine met.done fun a ha => ⟨_, rfl, ?_, fun other apart => ?_⟩
    · rw [part, Members.find?_put_self, ha, Option.getD_some]
    · exact Members.find?_put_of_ne _ _ apart

/-- The defaults of a document are checked with **exactly their faults**. -/
theorem meets_checkDefaults (h : IsDocument w depth (part m "defaults")) :
    (checkDefaults m).Meets w (settingsFaults (part m "defaults"))
      (Checked m "defaults" (entriesOf (part m "defaults"))) :=
  meets_check (f := id) settingsFaults entriesOf (h.meets_settingsOf _) rfl rfl

/-- The profiles of a document are checked with exactly their faults. -/
theorem meets_checkProfiles (h : IsDocument w depth (part m "profiles")) :
    (checkProfiles m).Meets w (profilesFaults (part m "profiles"))
      (Checked m "profiles"
        ((entriesOf (part m "profiles")).map fun e => (e.1, .dict (entriesOf e.2)))) := by
  refine meets_check profilesFaults
    (fun v => (entriesOf v).map fun e => (e.1, .dict (entriesOf e.2))) ?_ rfl rfl
  refine (h.meets_profilesOf _).imp fun checked same => ?_
  rw [same, List.map_map]
  rfl

/-- A configuration **takes** two documents: it holds what is read of them. -/
structure Config.Takes (c : Config) (m top : Members) : Prop where
  projectName : c.projectName = ((tableIn m "project").find? "name").getD (.str "")
  defaultProfile : c.defaultProfile = ((tableIn m "project").find? "default_profile").getD .none
  defaults : c.defaults = tableIn m "defaults"
  profiles : c.profiles = (tableIn m "profiles").map fun e => (e.1, entriesOf e.2)
  localProject : c.localTable "project" = part top "project"
  localDefaults : c.localTable "defaults" = .dict (tableIn top "defaults")
  localProfiles : c.localTable "profiles" =
    .dict ((tableIn top "profiles").map fun e => (e.1, .dict (entriesOf e.2)))

/-- The faults of two documents of which a **configuration** is made. -/
def documentFaults (m top : Members) : List Kind :=
  [tableFaults (part m "project"), settingsFaults (part m "defaults"),
    profilesFaults (part m "profiles"), settingsFaults (part top "defaults"),
    profilesFaults (part top "profiles")].flatten

/-- A configuration takes documents **without faults**. -/
theorem meets_ofDocuments (hm : IsDocument w depth (.dict m))
    (ho : IsDocument w depth (.dict top)) :
    (Config.ofDocuments (.dict m) (.dict top)).Meets w (documentFaults m top)
      (·.Takes m top) := by
  have entry (key : String) : (entryOr (.dict m) key (.dict [])).outcome w =
      (.ok (part m key), w) := rfl
  have given : (givenTables (.dict top)).outcome w = (.ok top, w) := by cases top <;> rfl
  rw [Config.ofDocuments]
  refine Meets.after (entry "project") ((meets_entryOr _ "name" _).bind fun name hn => ?_)
  obtain ⟨project, hn⟩ := hn
  have profile : (entryOr (part m "project") "default_profile" .none).outcome w =
      (.ok (((tableIn m "project").find? "default_profile").getD .none), w) := by
    rw [project, tableIn_eq]
    rfl
  refine Meets.after profile (Meets.after (entry "defaults") ?_)
  refine ((hm.part _).meets_settingsOf _).bind fun defaults hd => ?_
  refine Meets.after (entry "profiles") ?_
  refine ((hm.part _).meets_profilesOf _).bind fun profiles hp => ?_
  refine Meets.after given ((meets_checkDefaults (ho.part _)).bind fun tables ht => ?_)
  obtain ⟨checked, kept⟩ := ht
  have same : part tables "profiles" = part top "profiles" := by
    rw [part, part, kept _ (by decide)]
  have last := meets_checkProfiles (w := w) (same ▸ ho.part "profiles" : IsDocument w depth _)
  rw [same] at last
  refine last.bind fun final hf => .of_ok rfl ?_
  obtain ⟨checked', kept'⟩ := hf
  exact {
    projectName := by rw [hn, tableIn_eq]
    defaultProfile := rfl
    defaults := hd.trans (tableIn_eq ..).symm
    profiles := by rw [tableIn_eq m "profiles"]; exact hp
    localProject := by
      show part final "project" = _
      rw [part, kept' _ (by decide), kept _ (by decide), ← part]
    localDefaults := by
      show part final "defaults" = _
      rw [part, kept' _ (by decide), ← part, checked, tableIn_eq]
    localProfiles := by
      show part final "profiles" = _
      rw [checked', tableIn_eq] }

/-! ### Directions -/

/-- A **group** or the group of a name. -/
def groupOf? : Value → Option Group
  | .group g => some g
  | .str s => Group.ofName? s
  | _ => none

/-- The direction that a document **spells**: a word, or a list of groups. -/
def spelled? : Value → Option Direction
  | .str s => Direction.ofWord? s
  | .list items => (items.mapM groupOf?).bind Direction.ofGroups?
  | _ => none

/-- The faults of a value that is taken for a **direction**. -/
def directionFaults (v : Value) : List Kind := if (spelled? v).isSome then [] else [.value]

namespace IsDocument

/-- The group of a document is the one whose **name** it has. -/
theorem named?_eq (h : IsDocument w depth v) : Group.named? w v = groupOf? v := by
  cases h with
  | moment _ object cls _ =>
    rw [Group.named?, content?_moment object cls]
    rfl
  | _ => rfl

/-- A document is **keyed plainly**: nothing it is made of is hashed. -/
theorem keyedPlainly (h : IsDocument w depth v) : w.KeyedPlainly 0 v := by
  cases h with
  | moment _ object cls payload =>
    refine .single (World.plainKey_of_native (classOf_moment object cls)) ?_
    rw [Value.hashedParts, World.payload?, object, Option.map_some, payload]
  | _ => exact .single (World.plainKey_of_native rfl) rfl

/-- A document passes for the direction that it **spells**, and for no other. -/
theorem passed?_eq (h : IsDocument w depth v) : Direction.passed? w v = spelled? v := by
  cases h with
  | @array _ items documents =>
    have named : items.mapM (Group.named? w) = items.mapM groupOf? := by
      induction items with
      | nil => rfl
      | cons x rest ih =>
        rw [List.forall_mem_cons] at documents
        rw [List.mapM_cons, List.mapM_cons, documents.1.named?_eq, ih documents.2]
    rw [spelled?, ← named]
    rfl
  | @moment _ i _ _ object cls _ =>
    have content := content?_moment object cls
    have listed : Direction.listed? w (.object i) = none := by
      rw [Direction.listed?, content, heldItems?_moment object cls]
      rfl
    rw [Direction.passed?, content, listed]
    · rfl
    · intro _ other
      cases other
  | _ => rfl

/-- A document is **plain** where a direction is needed. -/
theorem plain (h : IsDocument w depth v) : Direction.Plain w 0 v where
  entries := by
    rintro _ rfl
    cases h
  items := by
    intro items listed x within
    cases h with
    | array documents =>
      cases listed
      exact (documents x within).keyedPlainly
    | moment _ object cls _ =>
      rw [Direction.listed?, content?_moment object cls, heldItems?_moment object cls] at listed
      cases listed
    | _ => cases listed
  entity := by
    intro entity
    cases h with
    | @moment _ i _ _ object cls _ =>
      have kind := classOf_moment object cls
      have other (c : NativeClass) (hc : c ∈ [NativeClass.direction, .str]) :
          w.isSubclass (w.classOf (.object i)) (.native c) = false := by
        rw [kind]
        simp only [List.mem_cons, List.not_mem_nil, or_false] at hc
        obtain rfl | rfl := hc <;> rfl
      have alone : Direction.isSequence w (w.classOf (.object i)) = false := by
        rw [kind]
        rfl
      exact {
        tells := Attribute.tellsClass_of_native kind (by simp)
        apart := other _ (by simp)
        word := fun word => absurd word (by rw [other _ (by simp)]; simp)
        list := fun _ sequence => absurd sequence (by rw [alone]; simp) }
    | _ => simp at entity

/-- A document is taken for the direction that it **spells**. -/
theorem outcome_take? (h : IsDocument w depth v) {budget : Nat} (enough : depth ≤ budget) :
    (Direction.take? (Interpreter.runner (budget + 1)) v).outcome w =
      (.ok ((spelled? v).map Direction.value), w) := by
  have taken : Direction.taken v = Direction.value := by
    cases h <;> rfl
  rw [Direction.outcome_take? h.plain (Nat.zero_le _), h.passed?_eq, taken]
  rcases unnamed : (Direction.listed? w v).bind (Direction.stranger? w) with _ | x
  · rfl
  · obtain ⟨items, listed, stranger⟩ := Option.bind_eq_some_iff.1 unnamed
    have none : spelled? v = none := by
      rw [← h.passed?_eq]
      exact Direction.passed?_of_stranger listed stranger
    have part := Direction.mem_shownParts_of_listed listed (List.mem_of_find?_eq_some stranger)
    obtain ⟨s, written⟩ : ∃ s, (Interpreter.runner (budget + 1) (.text [] x)).outcome w =
        (.ok (.str s), w) := by
      cases h.inert with
      | mk _ _ parts => exact (parts x part).outcome_text (Nat.le_succ_of_le enough) []
    simp only [Direction.outcome_wording, written, none, Option.map_none]

end IsDocument

/-- What is laid over a value spells **what it spelled**. -/
theorem spelled?_overlayValue (x y : Value) : spelled? (overlayValue x y) = spelled? y := by
  cases x with
  | dict xs => cases y <;> rfl
  | _ => rfl

/-- Under a name the upper of two tables counts. -/
theorem map_spelled?_overlay (t u : Members) (name : String) :
    ((overlay t u).find? name).map spelled? =
      ((u.find? name).map spelled?).or ((t.find? name).map spelled?) := by
  rw [find?_overlay]
  rcases t.find? name with _ | x <;> rcases u.find? name with _ | y
  · rfl
  · rfl
  · rfl
  · exact congrArg some (spelled?_overlayValue x y)

/-! ### Resolving a profile -/

/-- Whether a document **counts as true**. -/
def isFilled : Value → Bool
  | .bool b => b
  | .int n => n != 0
  | .float x => x != 0
  | .str s => !s.isEmpty
  | .list items => !items.isEmpty
  | .dict t => !t.isEmpty
  | _ => true

/-- Whether a document counts as true **is plain**. -/
theorem IsDocument.plainTruth_eq (h : IsDocument w depth v) : v.plainTruth = pure (isFilled v) := by
  cases h <;> rfl

/-- The faults of a value that is taken for the name of a **profile**. -/
def profileFaults (profiles : Members) : Value → List Kind
  | .list _ | .dict _ => [.type]
  | v => if defines profiles v then [] else [.value]

/-- The faults that are met when a profile is **resolved**. -/
def resolutionFaults (m top : Members) (given : Option String) : List Kind :=
  [if (given.getD "").isEmpty then tableFaults (part top "project") else [],
    profileFaults (tableIn m "profiles") (profileFor m top given),
    directionFaults (settingFor m top (profileFor m top given) "direction"),
    if isFilled (part top "project") then tableFaults (part top "project") else []].flatten

/-- The settings that hold **without a profile**. -/
def ofDefaults (m top : Members) : Members :=
  overlay (overlay builtin (tableIn m "defaults")) (tableIn top "defaults")

/-- Settings with **those of a profile** laid over them. -/
def ofProfile (m top settings : Members) (name : String) : Members :=
  overlay (overlay settings (tableIn (tableIn m "profiles") name))
    (tableIn (tableIn top "profiles") name)

/-- A setting that is missing spells no direction. -/
theorem spelled?_getD (o : Option Value) :
    spelled? (o.getD .none) = (o.map spelled?).getD none := by
  cases o <;> rfl

/-- Without a profile a setting spells what it is **set to**. -/
theorem spelled?_ofDefaults (m top : Members) (name : String) :
    spelled? (((ofDefaults m top).find? name).getD .none) =
      spelled? (settingFor m top .none name) := by
  have layered : settingFor m top .none name = ([tableIn top "defaults", tableIn m "defaults",
      builtin].findSome? (·.find? name)).getD .none := rfl
  rw [layered, spelled?_getD, spelled?_getD, ofDefaults, map_spelled?_overlay,
    map_spelled?_overlay]
  cases high : (tableIn top "defaults").find? name <;>
    cases low : (tableIn m "defaults").find? name <;> simp [high, low]

/-- So it does with one. -/
theorem spelled?_ofProfile (m top : Members) (profile name : String) :
    spelled? (((ofProfile m top (ofDefaults m top) profile).find? name).getD .none) =
      spelled? (settingFor m top (.str profile) name) := by
  have layered : settingFor m top (.str profile) name =
      ([tableIn (tableIn top "profiles") profile, tableIn (tableIn m "profiles") profile,
        tableIn top "defaults", tableIn m "defaults", builtin].findSome?
          (·.find? name)).getD .none := rfl
  rw [layered, spelled?_getD, spelled?_getD, ofProfile, ofDefaults, map_spelled?_overlay,
    map_spelled?_overlay, map_spelled?_overlay, map_spelled?_overlay]
  cases first : (tableIn (tableIn top "profiles") profile).find? name <;>
    cases second : (tableIn (tableIn m "profiles") profile).find? name <;>
      cases third : (tableIn top "defaults").find? name <;>
        cases fourth : (tableIn m "defaults").find? name <;>
          simp [first, second, third, fourth]

/-- A setting has a **text**, also where it is not set. -/
theorem outcome_texts {settings : Members} (documents : ∀ e ∈ settings, IsDocument w depth e.2)
    {budget : Nat} (enough : depth ≤ budget) (name : String) :
    (∃ s, (((settings.find? name).getD .none).quotedText
        (Interpreter.runner (budget + 1))).outcome w = (.ok s, w)) ∧
      ∃ s, (((settings.find? name).getD .none).plainText
        (Interpreter.runner (budget + 1))).outcome w = (.ok s, w) := by
  rcases found : settings.find? name with _ | v
  · exact ⟨⟨_, rfl⟩, _, rfl⟩
  · have document := documents _ (Members.mem_of_find? found)
    exact ⟨document.outcome_quotedText enough, document.outcome_plainText enough⟩

/-- The faults of the **direction** that is set are met. -/
theorem meets_directionOf {settings : Members} (documents : ∀ e ∈ settings, IsDocument w depth e.2)
    {budget : Nat} (enough : depth ≤ budget) (name : String) :
    (directionOf (Interpreter.runner (budget + 1)) ((settings.find? name).getD .none)).Meets w
      (directionFaults ((settings.find? name).getD .none))
      (fun d => spelled? ((settings.find? name).getD .none) = some d) := by
  obtain ⟨⟨shown, text⟩, -⟩ := outcome_texts documents enough name
  have stands : (Direction.take? (Interpreter.runner (budget + 1))
      ((settings.find? name).getD .none)).outcome w =
        (.ok ((spelled? ((settings.find? name).getD .none)).map Direction.value), w) := by
    rcases found : settings.find? name with _ | v
    · rfl
    · exact (documents _ (Members.mem_of_find? found)).outcome_take? enough
  refine Meets.after stands ?_
  rw [directionFaults]
  cases spelled? ((settings.find? name).getD .none) with
  | some d =>
    have accepted : (Direction.ofAccepted (Interpreter.runner (budget + 1)) d.value).outcome w =
        (.ok d, w) := by
      rw [Direction.ofAccepted_value]
      rfl
    exact .of_ok accepted rfl
  | none => exact .of_error (Run.outcome_bind_of_ok text) rfl

/-- The built-in settings are documents. -/
theorem documents_builtin : ∀ e ∈ builtin, IsDocument w depth e.2 := by
  intro e he
  simp only [builtin, List.mem_cons, List.not_mem_nil, or_false] at he
  rcases he with rfl | rfl | rfl <;> exact .str _ _

/-- The defaults of two documents are documents. -/
theorem documents_ofDefaults (hm : IsDocument w depth (.dict m))
    (ho : IsDocument w depth (.dict top)) :
    ∀ e ∈ ofDefaults m top, IsDocument w depth e.2 :=
  documents_overlay (documents_overlay documents_builtin (hm.tableIn _)) (ho.tableIn _)

/-- The profile in use, if any, is named by a **document**. -/
theorem document_profileFor (hm : IsDocument w depth (.dict m))
    (ho : IsDocument w depth (.dict top)) (given : Option String) :
    profileFor m top given = .none ∨ IsDocument w depth (profileFor m top given) :=
  profileFor_cases (.str _) (fun _ found => ho.tableIn _ _ (Members.mem_of_find? found))
    (fun _ found => hm.tableIn _ _ (Members.mem_of_find? found)) given

namespace Config.Takes

variable {run : Runner} {c : Config} (h : c.Takes m top)
include h

/-- The profile in use is the given one, else the **default** one of the two documents. -/
theorem meets_profileInUse (run : Runner) (given : Option String) :
    (c.profileInUse run (given.elim .none .str)).Meets w
      (if (given.getD "").isEmpty then tableFaults (part top "project") else [])
      (· = profileFor m top given) := by
  have default : (entryOr (c.localTable "project") "default_profile" c.defaultProfile).Meets w
      (tableFaults (part top "project")) (· = defaultFor m top) := by
    rw [h.localProject]
    refine (meets_entryOr _ _ _).imp fun v hv => ?_
    rw [hv.2, h.defaultProfile, ← tableIn_eq, defaultFor, projectField, Option.getD_or]
  cases given with
  | none => exact default
  | some name =>
    show (if !name.isEmpty then _ else _ : Run Value).Meets w (if name.isEmpty then _ else _) _
    rw [profileFor]
    cases name.isEmpty with
    | true => exact default
    | false => exact .of_ok rfl rfl

/-- A profile of a configuration holds the entries of that of the main document. -/
theorem lookup_profiles (name : String) :
    c.profiles.lookup name = ((tableIn m "profiles").find? name).map entriesOf := by
  rw [h.profiles, lookup_map_snd]
  rfl

/-- A profile of the local document is taken as a table. -/
theorem entry_localProfiles (name : String) :
    entryOr (c.localTable "profiles") name (.dict []) =
      pure (.dict (tableIn (tableIn top "profiles") name)) := by
  have found : Members.find? ((tableIn top "profiles").map fun e => (e.1, .dict (entriesOf e.2)))
      name = ((tableIn top "profiles").find? name).map fun v => .dict (entriesOf v) :=
    lookup_map_snd (fun v => Value.dict (entriesOf v)) _ name
  rw [h.localProfiles, entryOr, tableOf, pure_bind, found, tableIn_eq _ name, part]
  cases (tableIn top "profiles").find? name <;> rfl

/-- The project table meets exactly its faults. -/
theorem meets_project (document : IsDocument w depth (part top "project")) :
    c.project.Meets w
      (if isFilled (part top "project") then tableFaults (part top "project") else [])
      (fun _ => True) := by
  rw [Config.project, h.localProject, document.plainTruth_eq, pure_bind]
  cases isFilled (part top "project") with
  | false => exact .of_ok rfl trivial
  | true =>
    refine (meets_entryOr _ _ _).done fun name hn => ?_
    rw [hn.1]
    exact ⟨_, rfl, trivial⟩

section Budget

variable {budget : Nat} (enough : depth ≤ budget) {settings : Members} {profile : Value}
include enough

/-- The settings of a profile meet exactly the faults of the profile. -/
theorem meets_withProfile (document : IsDocument w depth profile) :
    (c.withProfile (Interpreter.runner (budget + 1)) settings profile).Meets w
      (profileFaults (tableIn m "profiles") profile)
      (fun s => ∃ name, profile = .str name ∧ s = ofProfile m top settings name) := by
  obtain ⟨shown, text⟩ := document.outcome_quotedText enough
  have refused : (do
      let names := (c.profiles.map (·.1)).mergeSort fun a b => decide (a ≤ b)
      Run.raise (.unknownProfile (← profile.quotedText (Interpreter.runner (budget + 1))) names) :
        Run Members).Meets w [.value]
          (fun s => ∃ name, profile = .str name ∧ s = ofProfile m top settings name) :=
    .of_error (Run.outcome_bind_of_ok text) rfl
  cases document with
  | str _ name =>
    rw [Config.withProfile, pure_bind, h.lookup_profiles]
    rcases found : (tableIn m "profiles").find? name with _ | raw
    · have undefined : profileFaults (tableIn m "profiles") (.str name) = [.value] := by
        simp [profileFaults, defines, has_eq_isSome, found]
      rw [undefined]
      exact refused
    · have defined : profileFaults (tableIn m "profiles") (.str name) = [] := by
        simp [profileFaults, defines, has_eq_isSome, found]
      have own : tableIn (tableIn m "profiles") name = entriesOf raw := by
        rw [tableIn_eq, part, found, Option.getD_some]
      rw [defined]
      simp only [Option.map_some, h.entry_localProfiles, pure_bind]
      exact .of_ok rfl ⟨name, rfl, by rw [ofProfile, own]⟩
  | array _ =>
    simp only [Config.withProfile, Value.isHashable, Bool.false_eq_true, ↓reduceIte]
    exact .of_error rfl rfl
  | table _ =>
    simp only [Config.withProfile, Value.isHashable, Bool.false_eq_true, ↓reduceIte]
    exact .of_error rfl rfl
  | _ =>
    simp only [Config.withProfile, Value.isHashable, ↓reduceIte, pure_bind]
    exact refused

/-- Settings are settled with **exactly the faults** of the project, the direction and the
visibility. -/
theorem meets_settle (documents : ∀ e ∈ settings, IsDocument w depth e.2)
    (project : IsDocument w depth (part top "project")) :
    (c.settle (Interpreter.runner (budget + 1)) profile settings).Meets w
      [directionFaults ((settings.find? "direction").getD .none),
        if isFilled (part top "project") then tableFaults (part top "project") else []].flatten
      (fun r => spelled? ((settings.find? "direction").getD .none) = some r.direction) := by
  obtain ⟨-, visibility, shown⟩ := outcome_texts documents enough "visibility"
  obtain ⟨-, kernel, shown'⟩ := outcome_texts documents enough "kernel"
  rw [Config.settle]
  refine (meets_directionOf documents enough "direction").bind fun d hd => ?_
  refine (h.meets_project project).bind fun named _ => ?_
  exact Meets.after shown (Meets.after shown' (.of_ok rfl hd))

/-- The faults that are met when a profile is resolved, and the **direction** that is found. -/
theorem meets_resolve (hm : IsDocument w depth (.dict m)) (ho : IsDocument w depth (.dict top))
    (given : Option String) :
    (c.resolve (Interpreter.runner (budget + 1)) (given.elim .none .str)).Meets w
      (resolutionFaults m top given)
      (fun r => spelled? (settingFor m top (profileFor m top given) "direction") =
        some r.direction) := by
  have defaults : tableOf "keys" (c.localTable "defaults") = pure (tableIn top "defaults") := by
    rw [h.localDefaults]
    rfl
  have documents := documents_ofDefaults hm ho
  rw [Config.resolve]
  refine (h.meets_profileInUse _ given).bind fun profile inUse => ?_
  subst inUse
  simp only [defaults, pure_bind, h.defaults]
  obtain none | document := document_profileFor hm ho given
  · rw [none]
    have settled : (c.settle _ .none (ofDefaults m top)).Meets w _ _ :=
      h.meets_settle enough documents (ho.part _)
    rw [directionFaults, spelled?_ofDefaults] at settled
    exact settled
  · generalize profileFor m top given = profile at document ⊢
    suffices met : (do
        c.settle (Interpreter.runner (budget + 1)) profile (← c.withProfile
          (Interpreter.runner (budget + 1)) (ofDefaults m top) profile) : Run Resolved).Meets w
        [profileFaults (tableIn m "profiles") profile,
          directionFaults (settingFor m top profile "direction"),
          if isFilled (part top "project") then tableFaults (part top "project") else []].flatten
        (fun r => spelled? (settingFor m top profile "direction") = some r.direction) by
      cases document <;> exact met
    refine (h.meets_withProfile enough document).bind fun settings hs => ?_
    obtain ⟨name, rfl, rfl⟩ := hs
    have settled : (c.settle _ (.str name) (ofProfile m top (ofDefaults m top) name)).Meets w _ _ :=
      h.meets_settle enough (documents_overlay
        (documents_overlay documents (documents_tableIn (hm.tableIn _) name))
        (documents_tableIn (ho.tableIn _) name)) (ho.part _)
    rw [directionFaults, spelled?_ofProfile] at settled
    exact settled

end Budget

end Config.Takes

/-! ### The faults of two documents -/

/-- The **faults** of two documents with a profile that is given or left to them, in the order in
which they are met. -/
def faults (m top : Members) (given : Option String) : List Kind :=
  documentFaults m top ++ resolutionFaults m top given

/-- The tables of settings that a document holds. -/
def settingsTables (m : Members) : List Value :=
  part m "defaults" :: (tableIn m "profiles").map (·.2)

/-- A document is **tabular** if it has tables where tables are meant, and texts for the names of
profiles. -/
structure Tabular (m : Members) : Prop where
  project : tableFaults (part m "project") = []
  defaults : tableFaults (part m "defaults") = []
  profiles : tableFaults (part m "profiles") = []
  profile : ∀ e ∈ tableIn m "profiles", tableFaults e.2 = []
  default : ∀ v, (tableIn m "project").find? "default_profile" = some v → isText v = true

section Kinds

variable {k : Kind}

/-- What is no table fails as a missing attribute. -/
theorem kind_of_tableFaults (h : k ∈ tableFaults v) : k = .attr := by
  cases v with
  | dict t => cases h
  | _ => exact List.mem_singleton.1 h

/-- Settings are of the wrong **type** only where they are no table. -/
theorem kind_of_settingsFaults (h : k ∈ settingsFaults v) :
    k = .value ∨ k = .type ∧ tableFaults v ≠ [] := by
  cases v with
  | dict t =>
    rw [settingsFaults] at h
    split at h
    · cases h
    · exact .inl (List.mem_singleton.1 h)
  | str s =>
    rw [settingsFaults] at h
    split at h
    · cases h
    · exact .inl (List.mem_singleton.1 h)
  | list items =>
    rw [settingsFaults] at h
    split at h
    · cases h
    · split at h
      · exact .inl (List.mem_singleton.1 h)
      · exact .inr ⟨List.mem_singleton.1 h, List.cons_ne_nil _ _⟩
  | _ => exact .inr ⟨List.mem_singleton.1 h, List.cons_ne_nil _ _⟩

/-- Profiles fail as a missing attribute, or by a fault within one of them. -/
theorem kind_of_profilesFaults (h : k ∈ profilesFaults v) :
    k = .attr ∧ tableFaults v ≠ [] ∨
      ∃ e ∈ entriesOf v, k = .value ∨ k = .type ∧ tableFaults e.2 ≠ [] := by
  cases v with
  | dict t =>
    obtain ⟨e, he, hk⟩ := List.mem_flatMap.1 h
    exact .inr ⟨e, he, kind_of_settingsFaults hk⟩
  | _ => exact .inl ⟨List.mem_singleton.1 h, List.cons_ne_nil _ _⟩

/-- A profile that is unknown fails as a wrong value, and one that is no text as a wrong type. -/
theorem kind_of_profileFaults {profiles : Members} (h : k ∈ profileFaults profiles v) :
    k = .value ∨ k = .type ∧ isText v = false := by
  rw [profileFaults.eq_def] at h
  split at h
  · exact .inr ⟨List.mem_singleton.1 h, rfl⟩
  · exact .inr ⟨List.mem_singleton.1 h, rfl⟩
  · split at h
    · cases h
    · exact .inl (List.mem_singleton.1 h)

/-- A wrong direction fails as a wrong value. -/
theorem kind_of_directionFaults (h : k ∈ directionFaults v) : k = .value := by
  rw [directionFaults] at h
  split at h
  · cases h
  · exact List.mem_singleton.1 h

/-- The profile in use, if any, is named by a text where both documents are tabular. -/
theorem isText_profileFor (hm : Tabular m) (ho : Tabular top) (given : Option String) :
    profileFor m top given = .none ∨ isText (profileFor m top given) = true :=
  profileFor_cases (fun _ => rfl) ho.default hm.default given

/-- Documents have no other faults than wrong values, missing attributes and wrong types, and
tabular ones have **wrong values** only. -/
theorem kind_of_faults {given : Option String} (h : k ∈ faults m top given) :
    k = .value ∨ (k = .attr ∨ k = .type) ∧ ¬ (Tabular m ∧ Tabular top) := by
  have project {m : Members} (h : k ∈ tableFaults (part m "project")) :
      k = .attr ∧ ¬ Tabular m :=
    ⟨kind_of_tableFaults h, fun t => by rw [t.project] at h; cases h⟩
  have defaults {m : Members} (h : k ∈ settingsFaults (part m "defaults")) :
      k = .value ∨ k = .type ∧ ¬ Tabular m :=
    (kind_of_settingsFaults h).imp_right fun ⟨hk, other⟩ => ⟨hk, fun t => other t.defaults⟩
  have profiles {m : Members} (h : k ∈ profilesFaults (part m "profiles")) :
      k = .value ∨ (k = .attr ∨ k = .type) ∧ ¬ Tabular m := by
    rcases kind_of_profilesFaults h with ⟨hk, other⟩ | ⟨e, he, hk | ⟨hk, other⟩⟩
    · exact .inr ⟨.inl hk, fun t => other t.profiles⟩
    · exact .inl hk
    · exact .inr ⟨.inr hk, fun t => other (t.profile e (by rwa [tableIn_eq]))⟩
  simp only [faults, documentFaults, resolutionFaults, List.flatten_cons, List.flatten_nil,
    List.append_nil, List.mem_append] at h
  rcases h with (h | h | h | h | h) | h | h | h | h
  · exact .inr ⟨.inl (project h).1, fun t => (project h).2 t.1⟩
  · exact (defaults h).imp_right fun ⟨hk, other⟩ => ⟨.inr hk, fun t => other t.1⟩
  · exact (profiles h).imp_right fun ⟨hk, other⟩ => ⟨hk, fun t => other t.1⟩
  · exact (defaults h).imp_right fun ⟨hk, other⟩ => ⟨.inr hk, fun t => other t.2⟩
  · exact (profiles h).imp_right fun ⟨hk, other⟩ => ⟨hk, fun t => other t.2⟩
  · split at h
    · exact .inr ⟨.inl (project h).1, fun t => (project h).2 t.2⟩
    · cases h
  · rcases kind_of_profileFaults h with hk | ⟨hk, other⟩
    · exact .inl hk
    · refine .inr ⟨.inr hk, fun t => ?_⟩
      rcases isText_profileFor t.1 t.2 given with none | text
      · rw [none] at h
        cases h
      · cases other.symm.trans text
  · exact .inl (kind_of_directionFaults h)
  · split at h
    · exact .inr ⟨.inl (project h).1, fun t => (project h).2 t.2⟩
    · cases h

end Kinds

/-- Tables of settings without faults hold **nothing but settings**. -/
theorem setting_of_settingsFaults (h : settingsFaults v = []) :
    ∀ e ∈ entriesOf v, e.1 ∈ Error.settingNames := by
  intro e he
  cases v with
  | dict t =>
    rw [settingsFaults] at h
    split at h
    · next all => exact List.contains_iff_mem.1 (List.all_eq_true.1 all e he)
    · cases h
  | _ => cases he

/-- Profiles without faults hold settings without faults. -/
theorem settingsFaults_of_profilesFaults (h : profilesFaults v = []) :
    ∀ e ∈ entriesOf v, settingsFaults e.2 = [] := by
  intro e he
  cases v with
  | dict t => exact List.flatMap_eq_nil_iff.1 h e he
  | _ => cases he

/-- Documents without faults hold nothing but settings in their tables of settings. -/
theorem setting_of_documentFaults (h : documentFaults m top = []) :
    ∀ v ∈ settingsTables m ++ settingsTables top, ∀ e ∈ entriesOf v,
      e.1 ∈ Error.settingNames := by
  have held {m : Members} (defaults : settingsFaults (part m "defaults") = [])
      (profiles : profilesFaults (part m "profiles") = []) :
      ∀ v ∈ settingsTables m, ∀ e ∈ entriesOf v, e.1 ∈ Error.settingNames := by
    intro v hv
    rcases List.mem_cons.1 hv with rfl | hv
    · exact setting_of_settingsFaults defaults
    · obtain ⟨e, he, rfl⟩ := List.mem_map.1 hv
      rw [tableIn_eq] at he
      exact setting_of_settingsFaults (settingsFaults_of_profilesFaults profiles e he)
  simp only [documentFaults, List.flatten_cons, List.flatten_nil, List.append_nil,
    List.append_eq_nil_iff] at h
  obtain ⟨-, defaults, profiles, defaults', profiles'⟩ := h
  intro v hv
  rcases List.mem_append.1 hv with hv | hv
  · exact held defaults profiles v hv
  · exact held defaults' profiles' v hv

/-- A settings file with tables in tables is a document. -/
theorem document_shared : IsDocument .empty 3 (.dict shared) := by
  refine .table fun e he => ?_
  simp only [shared, List.mem_cons, List.not_mem_nil, or_false] at he
  rcases he with rfl | rfl | rfl
  · exact .single "name" (.str _ "demo")
  · exact .single "direction" (.str _ "OIK")
  · exact .single "strict" (.single "visibility" (.str _ "public"))

end Settings

end OrderedScope
