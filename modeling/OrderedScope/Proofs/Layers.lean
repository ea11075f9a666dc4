import OrderedScope.Proofs.Faults

/-!
# Two Settings Files as One

A settings file can have a local file beside it, which is to be laid over it. The two are kept apart
all the same, and a profile is resolved by looking into both. This module compares that with what a
single file gives that holds one laid over the other: the settings, the project and the profile in
use come out alike, whichever file holds which part of them, but only the main file makes a profile
known.

## Main results

* `outcome_ofDocuments`: a configuration made of well-formed documents holds what they hold.
* `Config.Reads.resolve_eq`: how a profile is resolved from what the documents hold.
* `WellFormed.overlay`, `settingFor_overlay`, `profileFor_overlay`: one document laid over another.
* `resolve_overlaid`: both ways compared.
-/

namespace OrderedScope.Settings

variable {run : Runner} {w : World} {m top t u : Members} {name : String}

/-! ### Tables laid over each other -/

/-- What is made of the values of a list is found **under the same names**. -/
theorem lookup_map_snd {α β : Type} (f : α → β) (l : List (String × α)) (name : String) :
    (l.map fun e => (e.1, f e.2)).lookup name = (l.lookup name).map f := by
  induction l with
  | nil => rfl
  | cons e rest ih =>
    obtain ⟨key, x⟩ := e
    rw [List.map_cons, List.lookup_cons, List.lookup_cons, ih]
    cases name == key <;> rfl

/-- A table holds exactly the names that it gives a value for. -/
theorem has_eq_isSome (t : Members) (name : String) : t.has name = (t.find? name).isSome := by
  cases found : t.find? name with
  | none => exact Members.find?_eq_none_iff.1 found
  | some v =>
    rw [Option.isSome_some, ← Bool.not_eq_false, ← Members.find?_eq_none_iff, found]
    nofun

/-- Nothing over a table leaves it. -/
theorem overlay_nil (t : Members) : overlay t [] = t := by
  have entries (t : Members) : overlayEntries t [] = t := by
    induction t with
    | nil => rfl
    | cons e rest ih =>
      obtain ⟨key, x⟩ := e
      rw [overlayEntries, ih]
      rfl
  rw [overlay, entries, List.filter_nil, List.append_nil]

/-- A table over nothing is itself. -/
theorem nil_overlay (t : Members) : overlay [] t = t := by
  rw [overlay, overlayEntries, List.nil_append]
  exact List.filter_eq_self.2 fun _ _ => rfl

/-- An entry of a layered table stands in one of the two layers, or is **made of both**. -/
theorem mem_overlay {e : String × Value} (h : e ∈ overlay t u) :
    e ∈ t ∨ e ∈ u ∨ ∃ x y, (e.1, x) ∈ t ∧ (e.1, y) ∈ u ∧ e.2 = overlayValue x y := by
  have entries (t : Members) (h : e ∈ overlayEntries t u) :
      e ∈ t ∨ ∃ x y, (e.1, x) ∈ t ∧ (e.1, y) ∈ u ∧ e.2 = overlayValue x y := by
    induction t with
    | nil => cases h
    | cons first rest ih =>
      obtain ⟨key, x⟩ := first
      rw [overlayEntries, List.mem_cons] at h
      obtain rfl | later := h
      · cases found : u.find? key with
        | none => exact .inl List.mem_cons_self
        | some y => exact .inr ⟨x, y, List.mem_cons_self, Members.mem_of_find? found, rfl⟩
      · obtain old | ⟨x, y, hx, hy, made⟩ := ih later
        · exact .inl (List.mem_cons_of_mem _ old)
        · exact .inr ⟨x, y, List.mem_cons_of_mem _ hx, hy, made⟩
  rw [overlay, List.mem_append] at h
  obtain h | h := h
  · obtain old | both := entries t h
    · exact .inl old
    · exact .inr (.inr both)
  · exact .inr (.inl (List.mem_filter.1 h |>.1))

/-- What holds of all entries of two layers holds of the **layered table**, if layering keeps it. -/
theorem forall_mem_overlay {kind : String × Value → Prop}
    (closed : ∀ name x y, kind (name, x) → kind (name, y) → kind (name, overlayValue x y))
    (ht : ∀ e ∈ t, kind e) (hu : ∀ e ∈ u, kind e) : ∀ e ∈ overlay t u, kind e := by
  rintro ⟨name, v⟩ he
  obtain low | high | ⟨x, y, hx, hy, rfl⟩ := mem_overlay he
  · exact ht _ low
  · exact hu _ high
  · exact closed name x y (ht _ hx) (hu _ hy)

/-- Where the lower layer has **no table** under a name, the upper one hides it. -/
theorem find?_overlay_of_plain (plain : ∀ inner, t.find? name ≠ some (.dict inner)) :
    (overlay t u).find? name = (u.find? name).or (t.find? name) := by
  have top (x y : Value) (h : ∀ inner, x ≠ .dict inner) : overlayValue x y = y := by
    cases x with
    | dict inner => exact (h inner rfl).elim
    | _ => rfl
  rw [find?_overlay]
  cases low : t.find? name with
  | none => cases u.find? name <;> rfl
  | some x =>
    cases u.find? name with
    | none => rfl
    | some y =>
      have hidden := top x y fun inner h => plain inner (by rw [low, h])
      exact congrArg some hidden

/-! ### Well-formed documents -/

/-- A table whose entries are **texts**. -/
def IsProject (t : Members) : Prop := ∀ e ∈ t, ∃ s, e.2 = .str s

/-- A table that holds nothing but **settings**, none of them a table. -/
def IsSettings (t : Members) : Prop :=
  ∀ e ∈ t, e.1 ∈ Error.settingNames ∧ ∀ inner, e.2 ≠ .dict inner

/-- A table of tables of settings. -/
def IsProfiles (t : Members) : Prop := ∀ e ∈ t, ∃ inner, e.2 = .dict inner ∧ IsSettings inner

/-- What a document holds under a name, if anything, is a **table of a kind**. -/
def Holds (kind : Members → Prop) (name : String) (m : Members) : Prop :=
  ∀ v, m.find? name = some v → ∃ t, v = .dict t ∧ kind t

/-- A document is **well-formed** if its tables are. -/
structure WellFormed (m : Members) : Prop where
  project : Holds IsProject "project" m
  defaults : Holds IsSettings "defaults" m
  profiles : Holds IsProfiles "profiles" m

/-- An empty document is well-formed. -/
theorem wellFormed_nil : WellFormed [] := ⟨nofun, nofun, nofun⟩

/-- The table under a name, empty if there is none. -/
def tableIn (m : Members) (name : String) : Members :=
  match m.find? name with
  | some (.dict t) => t
  | _ => []

/-- Two project tables laid over each other are one. -/
theorem IsProject.overlay (ht : IsProject t) (hu : IsProject u) : IsProject (overlay t u) := by
  refine forall_mem_overlay ?_ ht hu
  rintro _ _ _ ⟨s, rfl⟩ ⟨s', rfl⟩
  exact ⟨s', rfl⟩

/-- Settings over settings **are settings**. -/
theorem IsSettings.overlay (ht : IsSettings t) (hu : IsSettings u) :
    IsSettings (overlay t u) := by
  refine forall_mem_overlay (fun name x y low high => ⟨low.1, ?_⟩) ht hu
  cases x with
  | dict inner => exact (low.2 inner rfl).elim
  | _ => exact high.2

/-- Profiles over profiles are profiles. -/
theorem IsProfiles.overlay (ht : IsProfiles t) (hu : IsProfiles u) :
    IsProfiles (overlay t u) := by
  refine forall_mem_overlay ?_ ht hu
  rintro _ _ _ ⟨low, rfl, hlow⟩ ⟨high, rfl, hhigh⟩
  exact ⟨_, rfl, hlow.overlay hhigh⟩

namespace Holds

variable {kind : Members → Prop}

/-- Either there is nothing under the name, or the table that is meant by it. -/
theorem absent_or_table (h : Holds kind name m) :
    (m.find? name = none ∧ tableIn m name = []) ∨
      (m.find? name = some (.dict (tableIn m name)) ∧ kind (tableIn m name)) := by
  cases found : m.find? name with
  | none => exact .inl ⟨rfl, by rw [tableIn, found]⟩
  | some v =>
    obtain ⟨t, rfl, ht⟩ := h v found
    have same : tableIn m name = t := by rw [tableIn, found]
    exact .inr ⟨by rw [same], by rwa [same]⟩

/-- A table within a document is of the kind that the document promises, or empty. -/
theorem kind_tableIn (h : Holds kind name m) (empty : kind []) : kind (tableIn m name) := by
  obtain ⟨-, none⟩ | ⟨-, ht⟩ := h.absent_or_table
  · rwa [none]
  · exact ht

/-- The value under the name, with the empty table in place of none. -/
theorem getD_find? (h : Holds kind name m) :
    (m.find? name).getD (.dict []) = .dict (tableIn m name) := by
  obtain ⟨absent, none⟩ | ⟨found, -⟩ := h.absent_or_table
  · rw [absent, none, Option.getD_none]
  · rw [found, Option.getD_some]

section Overlay

variable (hm : Holds kind name m) (ho : Holds kind name top)
include hm ho

/-- Under a name the layered document holds the **layered table**. -/
theorem tableIn_overlay :
    tableIn (Settings.overlay m top) name =
      Settings.overlay (tableIn m name) (tableIn top name) := by
  obtain ⟨absent, none⟩ | ⟨found, -⟩ := hm.absent_or_table
  · rw [none, nil_overlay, tableIn, find?_overlay, absent]
    rfl
  · obtain ⟨absent', none⟩ | ⟨found', -⟩ := ho.absent_or_table
    · rw [none, overlay_nil, tableIn, find?_overlay, found, absent']
    · rw [tableIn, find?_overlay, found, found']
      rfl

/-- What two documents promise under a name they promise together. -/
theorem overlay (closed : ∀ {t u}, kind t → kind u → kind (Settings.overlay t u)) :
    Holds kind name (Settings.overlay m top) := by
  intro v hv
  rw [find?_overlay] at hv
  obtain ⟨absent, -⟩ | ⟨found, ht⟩ := hm.absent_or_table
  · rw [absent] at hv
    exact ho v hv
  · obtain ⟨absent', -⟩ | ⟨found', hu⟩ := ho.absent_or_table
    · rw [found, absent'] at hv
      exact hm v (found.trans hv)
    · rw [found, found'] at hv
      cases hv
      exact ⟨_, rfl, closed ht hu⟩

end Overlay

end Holds

/-- One well-formed document laid over another is **well-formed**. -/
theorem WellFormed.overlay (hm : WellFormed m) (ho : WellFormed top) :
    WellFormed (overlay m top) where
  project := hm.project.overlay ho.project .overlay
  defaults := hm.defaults.overlay ho.defaults .overlay
  profiles := hm.profiles.overlay ho.profiles .overlay

/-! ### What a configuration holds -/

/-- Settings have no faults. -/
theorem IsSettings.faults_eq_nil (h : IsSettings t) : settingsFaults (.dict t) = [] :=
  if_pos (List.all_eq_true.2 fun e he => List.contains_iff_mem.2 (h e he).1)

/-- A well-formed table of settings is **accepted**. -/
theorem outcome_settingsOf (place : String) (h : IsSettings t) (w : World) :
    (settingsOf place (.dict t)).outcome w = (.ok t, w) := by
  have met := meets_settingsOf_table (w := w) place t
  rw [h.faults_eq_nil] at met
  obtain ⟨_, accepted, rfl⟩ := met
  exact accepted

/-- So are tables of tables of settings. -/
theorem outcome_profilesOf (place : String → String) (h : IsProfiles t) (w : World) :
    ∃ tables, (profilesOf (.dict t) place).outcome w = (.ok tables, w) ∧
      tables.map (fun e => (e.1, Value.dict e.2)) = t := by
  have none : profilesFaults (.dict t) = [] := by
    refine List.flatMap_eq_nil_iff.2 fun e he => ?_
    obtain ⟨inner, table, settings⟩ := h e he
    rw [table, settings.faults_eq_nil]
  have met : (profilesOf (.dict t) place).Meets w _ _ := meets_profilesOf_table fun e he => by
    obtain ⟨inner, table, -⟩ := h e he
    rw [table]
    exact meets_settingsOf_table _ inner
  rw [none] at met
  obtain ⟨_, accepted, rfl⟩ := met
  refine ⟨_, accepted, ?_⟩
  rw [List.map_map]
  refine (List.map_congr_left fun e he => ?_).trans (List.map_id t)
  obtain ⟨inner, table, -⟩ := h e he
  exact Prod.ext rfl (by simp only [Function.comp_apply, table, entriesOf, id])

/-- Putting back what stands under a name changes nothing of what a table **holds**. -/
theorem find?_put_same {v : Value} (h : t.find? name = some v) (other : String) :
    (t.put name v).find? other = t.find? other := by
  by_cases same : other = name
  · rw [same, Members.find?_put_self, h]
  · rw [Members.put, if_pos (by rw [has_eq_isSome, h, Option.isSome_some])]
    clear h
    induction t with
    | nil => rfl
    | cons e rest ih =>
      obtain ⟨key, x⟩ := e
      rw [Members.find?, Members.find?, List.map_cons, List.lookup_cons] at *
      by_cases hit : key = name
      · rw [hit, if_pos (beq_self_eq_true name), List.lookup_cons, beq_false_of_ne same]
        exact ih
      · rw [if_neg (by simpa using hit), List.lookup_cons, ih]

/-- Checking well-formed defaults changes **nothing** of what a document holds. -/
theorem outcome_checkDefaults (h : Holds IsSettings "defaults" m) (w : World) :
    ∃ tables, (checkDefaults m).outcome w = (.ok tables, w) ∧
      ∀ name, tables.find? name = m.find? name := by
  rw [checkDefaults]
  obtain ⟨absent, -⟩ | ⟨found, settings⟩ := h.absent_or_table
  · rw [absent]
    exact ⟨m, rfl, fun _ => rfl⟩
  · rw [found]
    simp only
    rw [Run.outcome_bind_of_ok (outcome_settingsOf _ settings w)]
    exact ⟨_, rfl, find?_put_same found⟩

/-- Neither does checking well-formed profiles. -/
theorem outcome_checkProfiles (h : Holds IsProfiles "profiles" m) (w : World) :
    ∃ tables, (checkProfiles m).outcome w = (.ok tables, w) ∧
      ∀ name, tables.find? name = m.find? name := by
  rw [checkProfiles]
  obtain ⟨absent, -⟩ | ⟨found, profiles⟩ := h.absent_or_table
  · rw [absent]
    exact ⟨m, rfl, fun _ => rfl⟩
  · obtain ⟨checked, accepted, same⟩ := outcome_profilesOf _ profiles w
    rw [found]
    simp only
    rw [Run.outcome_bind_of_ok accepted]
    refine ⟨_, rfl, find?_put_same ?_⟩
    rw [found, ← same]

/-- A configuration **reads** two documents: it holds what they hold. -/
structure Config.Reads (c : Config) (m top : Members) : Prop where
  projectName : c.projectName = ((tableIn m "project").find? "name").getD (.str "")
  defaultProfile : c.defaultProfile = ((tableIn m "project").find? "default_profile").getD .none
  defaults : c.defaults = tableIn m "defaults"
  profiles : c.profiles.map (fun e => (e.1, Value.dict e.2)) = tableIn m "profiles"
  localProject : c.localTable "project" = .dict (tableIn top "project")
  localDefaults : c.localTable "defaults" = .dict (tableIn top "defaults")
  localProfiles : c.localTable "profiles" = .dict (tableIn top "profiles")

/-- A configuration made of well-formed documents **reads** them. -/
theorem outcome_ofDocuments (hm : WellFormed m) (ho : WellFormed top) {second : Value}
    (given : second = .dict top ∨ second = .none ∧ top = []) (w : World) :
    ∃ c, (Config.ofDocuments (.dict m) second).outcome w = (.ok c, w) ∧ c.Reads m top := by
  have entry {t : Members} (key : String) (default : Value) :
      (entryOr (.dict t) key default).outcome w = (.ok ((t.find? key).getD default), w) := rfl
  have settings : IsSettings (tableIn m "defaults") := hm.defaults.kind_tableIn nofun
  obtain ⟨profiles, read, same⟩ :=
    outcome_profilesOf profilePlace (hm.profiles.kind_tableIn nofun) w
  have tables : (givenTables second).outcome w = (.ok top, w) := by
    obtain rfl | ⟨rfl, rfl⟩ := given
    · cases top <;> rfl
    · rfl
  obtain ⟨checked, defaults, kept⟩ := outcome_checkDefaults ho.defaults w
  have still : Holds IsProfiles "profiles" checked := fun v hv => ho.profiles v (by rwa [← kept])
  obtain ⟨final, local', kept'⟩ := outcome_checkProfiles still w
  refine ⟨⟨((tableIn m "project").find? "name").getD (.str ""),
    ((tableIn m "project").find? "default_profile").getD .none, tableIn m "defaults", profiles,
    final⟩, ?_, ?_⟩
  · rw [Config.ofDocuments, Run.outcome_bind_of_ok (entry _ _), hm.project.getD_find?,
      Run.outcome_bind_of_ok (entry _ _), Run.outcome_bind_of_ok (entry _ _),
      Run.outcome_bind_of_ok (entry _ _), hm.defaults.getD_find?,
      Run.outcome_bind_of_ok (outcome_settingsOf _ settings w), Run.outcome_bind_of_ok (entry _ _),
      hm.profiles.getD_find?, Run.outcome_bind_of_ok read, Run.outcome_bind_of_ok tables,
      Run.outcome_bind_of_ok defaults, Run.outcome_bind_of_ok local']
    rfl
  · have localTable (name : String) (kind : Members → Prop) (h : Holds kind name top) :
        (final.find? name).getD (.dict []) = .dict (tableIn top name) := by
      rw [kept', kept, h.getD_find?]
    exact ⟨rfl, rfl, rfl, same, localTable _ _ ho.project, localTable _ _ ho.defaults,
      localTable _ _ ho.profiles⟩

/-! ### Resolving -/

/-- What the documents say of the **project** under a name. -/
def projectField (m top : Members) (name : String) : Option Value :=
  ((tableIn top "project").find? name).or ((tableIn m "project").find? name)

/-- The default profile, if any. -/
def defaultFor (m top : Members) : Value := (projectField m top "default_profile").getD .none

/-- The **profile** in use: the given one, unless it is empty, else the default one of the
documents, if any. -/
def profileFor (m top : Members) (given : Option String) : Value :=
  match given with
  | none => defaultFor m top
  | some name => if name.isEmpty then defaultFor m top else .str name

/-- The **layers** of settings with some profile in use, the upper ones first. -/
def layers (m top : Members) (profile : Value) : List Members :=
  (match profile with
    | .str name => [tableIn (tableIn top "profiles") name, tableIn (tableIn m "profiles") name]
    | _ => []) ++ [tableIn top "defaults", tableIn m "defaults", builtin]

/-- What a setting is **set to**: what the uppermost layer has that sets it. -/
def settingFor (m top : Members) (profile : Value) (name : String) : Value :=
  ((layers m top profile).findSome? (·.find? name)).getD .none

/-- Whether some profiles **define** the one in use, where one is in use at all. -/
def defines (profiles : Members) : Value → Bool
  | .none => true
  | .str name => profiles.has name
  | _ => false

/-- The **refusal** of a profile that is not defined. -/
def refusal (run : Runner) (profiles : Members) (profile : Value) : Run Resolved := do
  Run.raise (.unknownProfile (← profile.quotedText run)
    (profiles.names.mergeSort fun a b => decide (a ≤ b)))

/-- The settings of a profile, **settled** from what they are set to. -/
def settle (run : Runner) (name default profile : Value) (setting : String → Value) :
    Run Resolved := do
  let direction ← directionOf run (setting "direction")
  let visibility ← (setting "visibility").plainText run
  let kernel ← (setting "kernel").plainText run
  pure ⟨name, default, profile, direction, visibility, kernel⟩

/-- Resolves the profile in use by what two documents hold, where **some profiles** are defined. -/
def resolveAmong (run : Runner) (profiles m top : Members) (given : Option String) :
    Run Resolved :=
  if defines profiles (profileFor m top given) then
    settle run ((projectField m top "name").getD (.str ""))
      (defaultFor m top) (profileFor m top given) (settingFor m top (profileFor m top given))
  else refusal run profiles (profileFor m top given)

/-- The profile in use, if any, is **given** or stands in one of the two documents. -/
theorem profileFor_cases {kind : Value → Prop} (text : ∀ s, kind (.str s))
    (high : ∀ v, (tableIn top "project").find? "default_profile" = some v → kind v)
    (low : ∀ v, (tableIn m "project").find? "default_profile" = some v → kind v)
    (given : Option String) :
    profileFor m top given = .none ∨ kind (profileFor m top given) := by
  have default : defaultFor m top = .none ∨ kind (defaultFor m top) := by
    rw [defaultFor]
    cases field : projectField m top "default_profile" with
    | none => exact .inl rfl
    | some v =>
      obtain found | ⟨-, found⟩ := Option.or_eq_some_iff.1 field
      · exact .inr (high v found)
      · exact .inr (low v found)
  rw [profileFor.eq_def]
  split
  · exact default
  · split
    · exact default
    · exact .inr (text _)

/-- In well-formed documents it is **named by a text**. -/
theorem profileFor_eq_none_or_str (hm : WellFormed m) (ho : WellFormed top)
    (given : Option String) :
    profileFor m top given = .none ∨ ∃ s, profileFor m top given = .str s :=
  profileFor_cases (fun s => ⟨s, rfl⟩)
    (fun _ found => ho.project.kind_tableIn nofun _ (Members.mem_of_find? found))
    (fun _ found => hm.project.kind_tableIn nofun _ (Members.mem_of_find? found)) given

/-- What is laid over a table of settings **hides** what it sets. -/
theorem find?_overlay_of_settings (h : IsSettings t) (name : String) :
    (overlay t u).find? name = (u.find? name).or (t.find? name) :=
  find?_overlay_of_plain fun inner found => (h _ (Members.mem_of_find? found)).2 inner rfl

/-- The built-in settings are settings. -/
theorem isSettings_builtin : IsSettings builtin := by
  intro e he
  simp only [builtin, List.mem_cons, List.not_mem_nil, or_false] at he
  obtain rfl | rfl | rfl := he
  all_goals exact ⟨by decide, nofun⟩

/-- The tables of a profile are tables of settings. -/
theorem WellFormed.profile (hm : WellFormed m) (name : String) :
    Holds IsSettings name (tableIn m "profiles") := fun v hv => by
  obtain ⟨inner, table, settings⟩ := hm.profiles.kind_tableIn nofun _ (Members.mem_of_find? hv)
  exact ⟨inner, table, settings⟩

section Layers

variable (hm : WellFormed m) (ho : WellFormed top)
include hm

/-- What is laid over each other without a profile are **the layers**. -/
theorem find?_overlaid (name : String) :
    (overlay (overlay builtin (tableIn m "defaults")) (tableIn top "defaults")).find? name =
      (layers m top .none).findSome? (·.find? name) := by
  have low := isSettings_builtin.overlay (hm.defaults.kind_tableIn nofun)
  rw [find?_overlay_of_settings low, find?_overlay_of_settings isSettings_builtin]
  show _ = List.findSome? _ [tableIn top "defaults", tableIn m "defaults", builtin]
  cases high : (tableIn top "defaults").find? name <;>
    cases mid : (tableIn m "defaults").find? name <;> simp [high, mid]

include ho

/-- So it is with a profile. -/
theorem find?_overlaid_profile (profile name : String) :
    (overlay (overlay (overlay (overlay builtin (tableIn m "defaults")) (tableIn top "defaults"))
      (tableIn (tableIn m "profiles") profile)) (tableIn (tableIn top "profiles") profile)).find?
        name = (layers m top (.str profile)).findSome? (·.find? name) := by
  have low := (isSettings_builtin.overlay (hm.defaults.kind_tableIn nofun)).overlay
    (ho.defaults.kind_tableIn nofun)
  have own := low.overlay ((hm.profile profile).kind_tableIn nofun)
  rw [find?_overlay_of_settings own, find?_overlay_of_settings low, find?_overlaid hm]
  show _ = List.findSome? _ (tableIn (tableIn top "profiles") profile ::
    tableIn (tableIn m "profiles") profile :: layers m top .none)
  cases high : (tableIn (tableIn top "profiles") profile).find? name <;>
    cases mid : (tableIn (tableIn m "profiles") profile).find? name <;> simp [high, mid]

end Layers

namespace Config.Reads

variable {c : Config} (h : c.Reads m top) (hm : WellFormed m) (ho : WellFormed top)
include h

/-- A configuration has the profiles of the merged document. -/
theorem names_profiles : c.profiles.map (·.1) = (tableIn m "profiles").names := by
  rw [← h.profiles, Members.names, List.map_map]
  rfl

/-- A profile of a configuration is that of the merged document. -/
theorem lookup_profiles (name : String) :
    (c.profiles.lookup name).map Value.dict = (tableIn m "profiles").find? name := by
  rw [← h.profiles, Members.find?, lookup_map_snd]

/-- The profile in use is the one that is asked for, or else the default one. -/
theorem profileInUse (given : Option String) :
    c.profileInUse run (given.elim .none .str) = pure (profileFor m top given) := by
  have default : entryOr (c.localTable "project") "default_profile" c.defaultProfile =
      pure (defaultFor m top) := by
    rw [h.localProject, h.defaultProfile, defaultFor, projectField, entryOr]
    show (pure _ : Run Value) = _
    cases (tableIn top "project").find? "default_profile" <;> rfl
  rw [Config.profileInUse, default]
  cases given with
  | none => rfl
  | some name =>
    show (if !name.isEmpty then _ else _ : Run Value) = _
    rw [profileFor]
    cases name.isEmpty <;> rfl

/-- The project is named, and the default profile given, by the project table. -/
theorem project_eq : c.project =
    pure ((projectField m top "name").getD (.str ""), defaultFor m top) := by
  have entry (name : String) (default : Value) : entryOr (c.localTable "project") name default =
      pure (((tableIn top "project").find? name).getD default) := by
    rw [h.localProject]
    rfl
  rw [Config.project, h.localProject]
  show (if !(tableIn top "project").isEmpty then _ else _ : Run (Value × Value)) = _
  rw [← h.localProject, entry, entry, h.projectName, h.defaultProfile, defaultFor, projectField,
    projectField]
  cases tableIn top "project" with
  | nil => rfl
  | cons e rest =>
    simp only [List.isEmpty_cons, Bool.not_false, ↓reduceIte, pure_bind, Option.getD_or]

/-- Settings are settled with the name and the default profile of the project. -/
theorem settle_eq (profile : Value) (settings : Members) :
    c.settle run profile settings =
      Settings.settle run ((projectField m top "name").getD (.str "")) (defaultFor m top) profile
        fun name => (settings.find? name).getD .none := by
  simp only [Config.settle, h.project_eq, pure_bind, Settings.settle]

include hm ho

/-- A configuration that reads two documents resolves a profile by **what they hold**, among the
profiles of the first one. -/
theorem resolve_eq (given : Option String) :
    c.resolve run (given.elim .none .str) =
      resolveAmong run (tableIn m "profiles") m top given := by
  have inUse : c.profileInUse run (given.elim .none .str) = _ := h.profileInUse given
  have named := profileFor_eq_none_or_str hm ho given
  rw [resolveAmong]
  generalize profileFor m top given = profile at inUse named
  have defaults : tableOf "keys" (c.localTable "defaults") = pure (tableIn top "defaults") := by
    rw [h.localDefaults]
    rfl
  simp only [Config.resolve, inUse, pure_bind, defaults, h.defaults]
  obtain rfl | ⟨name, rfl⟩ := named
  · rw [defines, if_pos rfl, h.settle_eq]
    refine congrArg (Settings.settle run _ _ _) (funext fun name => ?_)
    rw [find?_overlaid hm, settingFor]
  · have own := h.lookup_profiles name
    obtain ⟨absent, -⟩ | ⟨found, -⟩ := (hm.profile name).absent_or_table
    · rw [absent, Option.map_eq_none_iff] at own
      rw [defines, has_eq_isSome, absent, Option.isSome_none, if_neg Bool.false_ne_true, refusal,
        ← h.names_profiles]
      simp only [Config.withProfile, pure_bind, own, bind_assoc]
      exact bind_congr fun shown => rfl
    · rw [found] at own
      rw [defines, has_eq_isSome, found, Option.isSome_some, if_pos rfl]
      obtain ⟨table, known, same⟩ := Option.map_eq_some_iff.1 own
      cases same
      have more : entryOr (c.localTable "profiles") name (.dict []) =
          pure (.dict (tableIn (tableIn top "profiles") name)) := by
        rw [h.localProfiles, ← (ho.profile name).getD_find?]
        rfl
      simp only [Config.withProfile, pure_bind, known, more, tableOf, h.settle_eq]
      refine congrArg (Settings.settle run _ _ _) (funext fun setting => ?_)
      rw [find?_overlaid_profile hm ho, settingFor]

end Config.Reads

/-! ### One document laid over another -/

section Overlay

variable (hm : WellFormed m) (ho : WellFormed top)
include hm ho

/-- A field of the project is that of the merged document. -/
theorem projectField_overlay (name : String) :
    projectField (overlay m top) [] name = projectField m top name := by
  have plain (inner : Members) : (tableIn m "project").find? name ≠ some (.dict inner) := by
    intro found
    obtain ⟨s, text⟩ := hm.project.kind_tableIn nofun _ (Members.mem_of_find? found)
    cases text
  rw [projectField, projectField, hm.project.tableIn_overlay ho.project,
    find?_overlay_of_plain plain]
  exact Option.none_or

/-- The profile in use is that of the merged document. -/
theorem profileFor_overlay (given : Option String) :
    profileFor (overlay m top) [] given = profileFor m top given := by
  simp only [profileFor.eq_def, defaultFor, projectField_overlay hm ho]

/-- A setting is set to **the same**, whichever document has it. -/
theorem settingFor_overlay (profile : Value) (name : String) :
    settingFor (overlay m top) [] profile name = settingFor m top profile name := by
  have low : (tableIn (overlay m top) "defaults").find? name =
      ((tableIn top "defaults").find? name).or ((tableIn m "defaults").find? name) := by
    rw [hm.defaults.tableIn_overlay ho.defaults]
    exact find?_overlay_of_settings (hm.defaults.kind_tableIn nofun) name
  have high (profile : String) :
      (tableIn (tableIn (overlay m top) "profiles") profile).find? name =
        ((tableIn (tableIn top "profiles") profile).find? name).or
          ((tableIn (tableIn m "profiles") profile).find? name) := by
    rw [hm.profiles.tableIn_overlay ho.profiles,
      (hm.profile profile).tableIn_overlay (ho.profile profile)]
    exact find?_overlay_of_settings ((hm.profile profile).kind_tableIn nofun) name
  have empty : Members.find? [] name = none := rfl
  have without : (layers (overlay m top) [] .none).findSome? (·.find? name) =
      (layers m top .none).findSome? (·.find? name) := by
    show List.findSome? _ [[], tableIn (overlay m top) "defaults", builtin] =
      List.findSome? _ [tableIn top "defaults", tableIn m "defaults", builtin]
    cases upper : (tableIn top "defaults").find? name <;>
      cases lower : (tableIn m "defaults").find? name <;>
        simp [low, upper, lower, empty]
  rw [settingFor, settingFor]
  cases profile with
  | str profile =>
    show (List.findSome? _ ([] :: tableIn (tableIn (overlay m top) "profiles") profile ::
        layers (overlay m top) [] .none)).getD _ =
      (List.findSome? _ (tableIn (tableIn top "profiles") profile ::
        tableIn (tableIn m "profiles") profile :: layers m top .none)).getD _
    cases upper : (tableIn (tableIn top "profiles") profile).find? name <;>
      cases lower : (tableIn (tableIn m "profiles") profile).find? name <;>
        simp [high, without, upper, lower, empty]
  | _ => exact congrArg (·.getD .none) without

/-- A profile is defined by one document laid over another if **either** defines it. -/
theorem defines_overlay (profile : Value) :
    defines (tableIn (overlay m top) "profiles") profile =
      (defines (tableIn m "profiles") profile || defines (tableIn top "profiles") profile) := by
  rw [hm.profiles.tableIn_overlay ho.profiles]
  cases profile with
  | str name =>
    simp only [defines]
    rw [has_eq_isSome, has_eq_isSome, has_eq_isSome, find?_overlay]
    cases (tableIn m "profiles").find? name <;>
      cases (tableIn top "profiles").find? name <;> rfl
  | _ => rfl

end Overlay

/-- A profile resolved with **two files**, a main one and a local one. -/
def resolveApart (run : Runner) (data top : Members) (given : Option String) : Run Resolved := do
  (← Config.ofDocuments (.dict data) (.dict top)).resolve run (given.elim .none .str)

/-- A profile resolved with **one file** that holds the local one laid over the main one. -/
def resolveMerged (run : Runner) (data top : Members) (given : Option String) : Run Resolved := do
  (← Config.ofDocuments (.dict (overlay data top)) .none).resolve run (given.elim .none .str)

section Resolve

variable (hm : WellFormed m) (ho : WellFormed top)
include hm ho

/-- With two files a profile is resolved among those of **the main one**. -/
theorem outcome_resolveApart (given : Option String) (w : World) :
    (resolveApart run m top given).outcome w =
      (resolveAmong run (tableIn m "profiles") m top given).outcome w := by
  obtain ⟨c, made, reads⟩ := outcome_ofDocuments hm ho (.inl rfl) w
  rw [resolveApart, Run.outcome_bind_of_ok made, reads.resolve_eq hm ho]

/-- With one file it is resolved by the same layers, among the profiles of **both**. -/
theorem outcome_resolveMerged (given : Option String) (w : World) :
    (resolveMerged run m top given).outcome w =
      (resolveAmong run (tableIn (overlay m top) "profiles") m top given).outcome w := by
  obtain ⟨c, made, reads⟩ := outcome_ofDocuments (hm.overlay ho) wellFormed_nil (.inr ⟨rfl, rfl⟩) w
  rw [resolveMerged, Run.outcome_bind_of_ok made, reads.resolve_eq (hm.overlay ho) wellFormed_nil,
    resolveAmong, resolveAmong, profileFor_overlay hm ho, defaultFor, defaultFor,
    projectField_overlay hm ho, projectField_overlay hm ho,
    funext (settingFor_overlay hm ho (profileFor m top given))]

end Resolve

/-- The end of a refusal. -/
def refused (profiles : Members) (name : String) : Except Fault Resolved :=
  .error (.raised (.unknownProfile (Text.quote name)
    (profiles.names.mergeSort fun a b => decide (a ≤ b))))

/-- A profile that is not defined is refused **by name**. -/
theorem outcome_refusal (budget : Nat) (profiles : Members) (name : String) (w : World) :
    (refusal (Interpreter.runner (budget + 1)) profiles (.str name)).outcome w =
      (refused profiles name, w) := rfl

/-- **Two files against one.** A profile is resolved with a settings file and a local one beside it,
and with a single file that holds the local one laid over the main one; the files are well-formed,
and the profile is given or left to the files.

Both ways take the project, the profile in use and the settings from the same layers, and they end
alike, be it in an error, if the main file defines the profile or none is in use. They refuse a
profile that neither file defines. A profile that only the local file defines is refused by the
first way, though its settings are there, and settled by the second. -/
theorem resolve_overlaid {data top : Members} (hm : WellFormed data) (ho : WellFormed top)
    (budget : Nat) (given : Option String) (w : World) :
    let run := Interpreter.runner (budget + 1)
    let apart := (resolveApart run data top given).outcome w
    let merged := (resolveMerged run data top given).outcome w
    let profile := profileFor data top given
    apart = (resolveAmong run (tableIn data "profiles") data top given).outcome w ∧
    merged = (resolveAmong run (tableIn (overlay data top) "profiles") data top given).outcome w ∧
    (profile = .none → apart = merged) ∧
    ∀ name, profile = .str name →
      ((tableIn data "profiles").has name = true → apart = merged) ∧
      ((tableIn data "profiles").has name = false → (tableIn top "profiles").has name = false →
        apart = (refused (tableIn data "profiles") name, w) ∧
        merged = (refused (tableIn (overlay data top) "profiles") name, w)) ∧
      ((tableIn data "profiles").has name = false → (tableIn top "profiles").has name = true →
        apart = (refused (tableIn data "profiles") name, w) ∧
        merged = (settle run ((projectField data top "name").getD (.str ""))
          (defaultFor data top) profile (settingFor data top profile)).outcome w) := by
  intro run apart merged profile
  have first : apart = _ := outcome_resolveApart hm ho given w
  have second : merged = _ := outcome_resolveMerged hm ho given w
  have among (profiles : Members) : resolveAmong run profiles data top given =
      if defines profiles profile then settle run ((projectField data top "name").getD (.str ""))
        (defaultFor data top) profile (settingFor data top profile)
      else refusal run profiles profile := rfl
  refine ⟨first, second, fun none => ?_, fun name named => ?_⟩
  · rw [first, second, among, among, none]
    rfl
  have either : (tableIn (overlay data top) "profiles").has name =
      ((tableIn data "profiles").has name || (tableIn top "profiles").has name) :=
    defines_overlay hm ho (.str name)
  rw [first, second, among, among, named, defines, defines, either]
  refine ⟨fun main => ?_, fun main other => ?_, fun main other => ?_⟩
  · rw [main, Bool.true_or, if_pos rfl, if_pos rfl]
  · rw [main, other]
    exact ⟨outcome_refusal budget _ name w, outcome_refusal budget _ name w⟩
  · rw [main, other]
    exact ⟨outcome_refusal budget _ name w, rfl⟩

/-- A settings file with a project, a default and a profile. -/
def shared : Members :=
  [("project", .dict [("name", .str "demo")]), ("defaults", .dict [("direction", .str "OIK")]),
    ("profiles", .dict [("strict", .dict [("visibility", .str "public")])])]

/-- A local file beside it, which changes that profile and adds another. -/
def personal : Members :=
  [("project", .dict [("default_profile", .str "strict")]),
    ("profiles", .dict [("strict", .dict [("visibility", .str "private")]),
      ("mine", .dict [("direction", .str "KOI")])])]

/-- The shared document is well-formed. -/
theorem wellFormed_shared : WellFormed shared where
  project := by
    rintro v ⟨⟩
    exact ⟨_, rfl, by simp [IsProject]⟩
  defaults := by
    rintro v ⟨⟩
    exact ⟨_, rfl, by simp [IsSettings, Error.settingNames]⟩
  profiles := by
    rintro v ⟨⟩
    exact ⟨_, rfl, by simp [IsProfiles, IsSettings, Error.settingNames]⟩

/-- The personal document is well-formed. -/
theorem wellFormed_personal : WellFormed personal where
  project := by
    rintro v ⟨⟩
    exact ⟨_, rfl, by simp [IsProject]⟩
  defaults := nofun
  profiles := by
    rintro v ⟨⟩
    exact ⟨_, rfl, by simp [IsProfiles, IsSettings, Error.settingNames]⟩

/-- The profile of both files gives the same both ways; the profile of the local file is refused by
the first way and gives its direction by the second. -/
theorem resolve_overlaid_personal :
    let run := Interpreter.runner 3
    WellFormed shared ∧ WellFormed personal ∧
    (resolveApart run shared personal none).outcome .empty
      = (.ok ⟨.str "demo", .str "strict", .str "strict", .oik, "private", "builtins"⟩, .empty) ∧
    (resolveApart run shared personal none).outcome .empty
      = (resolveMerged run shared personal none).outcome .empty ∧
    (resolveApart run shared personal (some "mine")).outcome .empty
      = (refused (tableIn shared "profiles") "mine", .empty) ∧
    (resolveMerged run shared personal (some "mine")).outcome .empty
      = (.ok ⟨.str "demo", .str "strict", .str "mine", .koi, "public", "builtins"⟩, .empty) := by
  obtain ⟨first, -, -, known⟩ :=
    resolve_overlaid wellFormed_shared wellFormed_personal 2 none .empty
  obtain ⟨same, -, -⟩ := known "strict" rfl
  obtain ⟨-, -, -, known⟩ :=
    resolve_overlaid wellFormed_shared wellFormed_personal 2 (some "mine") .empty
  obtain ⟨-, -, only⟩ := known "mine" rfl
  obtain ⟨refused, settled⟩ := only rfl rfl
  exact ⟨wellFormed_shared, wellFormed_personal, first.trans rfl, same rfl, refused,
    settled.trans rfl⟩

/-- A profile that only the local file defines **cannot be resolved** beside the main file, and can
in one file with it. -/
theorem local_profile_refused :
    ((resolveApart (Interpreter.runner 3) shared personal (some "mine")).outcome .empty).1
      = .error (.raised (.unknownProfile "'mine'" ["strict"])) ∧
    ((resolveMerged (Interpreter.runner 3) shared personal (some "mine")).outcome .empty).1
      = .ok ⟨.str "demo", .str "strict", .str "mine", .koi, "public", "builtins"⟩ := by
  have shown : refused (tableIn shared "profiles") "mine" =
      .error (.raised (.unknownProfile "'mine'" ["strict"])) := by
    have names : (tableIn shared "profiles").names = ["strict"] := rfl
    rw [refused, names, List.mergeSort_singleton]
    rfl
  rw [outcome_resolveApart wellFormed_shared wellFormed_personal,
    outcome_resolveMerged wellFormed_shared wellFormed_personal]
  exact ⟨shown, rfl⟩

end OrderedScope.Settings
