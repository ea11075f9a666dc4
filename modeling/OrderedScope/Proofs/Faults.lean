import OrderedScope.Interpreter
import OrderedScope.Proofs.Outcome
import OrderedScope.Settings.Layers

/-!
# Faults of Tables of Settings

What a settings file holds is taken for a table of settings without a look at what it is, and stops
at the first thing that is wrong with it: what cannot be iterated is of the wrong type, names that
are no settings are wrong values, and what has no entries lacks an attribute. This module says which
faults values have, in the order in which they are met, and that a value is accepted exactly if it
has none.

## Main results

* `Run.Meets.bind`, `Run.Meets.mapM`: faults are met one after the other.
* `meets_settingsOf_table`, `meets_settingsOf_array`, `meets_settingsOf_text`: the faults of what is
  taken for a table of settings.
* `meets_profilesOf_table`: the faults of a table of profiles.
-/

namespace OrderedScope

/-! ### Meeting faults -/

namespace Run

variable {α β : Type} {x : Run α} {w : World} {faults more : List Kind} {good : α → Prop}
  {fine : β → Prop}

/-- A run **meets** faults: without any it gives something good, and else it fails with an error of
the kind of the first. It leaves the world as it is. -/
def Meets (x : Run α) (w : World) (faults : List Kind) (good : α → Prop) : Prop :=
  match faults with
  | [] => ∃ a, x.outcome w = (.ok a, w) ∧ good a
  | k :: _ => ∃ e : Error, x.outcome w = (.error (.raised e), w) ∧ e.kind = k

namespace Meets

/-- What is given well meets **no faults**. -/
theorem of_ok {a : α} (h : x.outcome w = (.ok a, w)) (ha : good a) : x.Meets w [] good :=
  ⟨a, h, ha⟩

/-- An error of the kind of the first fault meets the faults. -/
theorem of_error {e : Error} {k : Kind} (h : x.outcome w = (.error (.raised e), w))
    (kind : e.kind = k) : x.Meets w (k :: faults) good :=
  ⟨e, h, kind⟩

/-- What meets a good end meets a better one. -/
theorem imp {better : α → Prop} (h : x.Meets w faults good) (hg : ∀ a, good a → better a) :
    x.Meets w faults better := by
  cases faults with
  | nil =>
    obtain ⟨a, given, ha⟩ := h
    exact ⟨a, given, hg a ha⟩
  | cons k rest => exact h

/-- Faults are met **one after the other**. -/
theorem bind {f : α → Run β} (h : x.Meets w faults good)
    (hf : ∀ a, good a → (f a).Meets w more fine) : (x >>= f).Meets w (faults ++ more) fine := by
  cases faults with
  | nil =>
    obtain ⟨a, given, ha⟩ := h
    have goes := hf a ha
    rw [List.nil_append, Meets.eq_def] at *
    rwa [outcome_bind_of_ok given]
  | cons k rest =>
    obtain ⟨e, failed, kind⟩ := h
    exact ⟨e, outcome_bind_of_error failed, kind⟩

/-- What comes **after** a run that meets no faults meets its own. -/
theorem after {a : α} {f : α → Run β} (h : x.outcome w = (.ok a, w))
    (hf : (f a).Meets w more fine) : (x >>= f).Meets w more fine := by
  rw [Meets.eq_def] at *
  rwa [outcome_bind_of_ok h]

/-- What meets no faults can be done **at the end** of a run. -/
theorem done {f : α → Run β} (h : x.Meets w faults good)
    (hf : ∀ a, good a → ∃ b, (f a).outcome w = (.ok b, w) ∧ fine b) :
    (x >>= f).Meets w faults fine := by
  rw [← List.append_nil faults]
  exact h.bind hf

/-- A run **gives** something good and has no faults, or fails with one of them. -/
theorem ok_or_error (h : x.Meets w faults good) :
    (faults = [] ∧ ∃ a, x.outcome w = (.ok a, w) ∧ good a) ∨
      ∃ e : Error, x.outcome w = (.error (.raised e), w) ∧ e.kind ∈ faults := by
  cases faults with
  | nil => exact .inl ⟨rfl, h⟩
  | cons k rest =>
    obtain ⟨e, failed, kind⟩ := h
    exact .inr ⟨e, failed, kind ▸ List.mem_cons_self⟩

/-- The faults along a list. -/
theorem mapM {f : α → Run β} {g : α → β} {faultsOf : α → List Kind} {l : List α}
    (h : ∀ a ∈ l, (f a).Meets w (faultsOf a) (· = g a)) :
    (l.mapM f).Meets w (l.flatMap faultsOf) (· = l.map g) := by
  induction l with
  | nil => exact of_ok rfl rfl
  | cons a rest ih =>
    rw [List.forall_mem_cons] at h
    rw [List.mapM_cons, List.flatMap_cons]
    refine h.1.bind fun b hb => (ih h.2).done fun bs hbs => ⟨_, rfl, ?_⟩
    rw [hb, hbs, List.map_cons]

end Meets

end Run

namespace Settings

open Run

variable {w : World} {v : Value}

/-! ### Tables of settings -/

/-- What is read as the **entries** of a value. -/
def entriesOf : Value → Members
  | .dict t => t
  | _ => []

/-- Whether a value is a text. -/
def isText : Value → Bool
  | .str _ => true
  | _ => false

/-- The faults of a value that is taken for a **table**. -/
def tableFaults : Value → List Kind
  | .dict _ => []
  | _ => [.attr]

/-- The faults of a value that is taken for a **table of settings**. A text and an array are read
for the names in them, and hold no settings if there are none. -/
def settingsFaults : Value → List Kind
  | .dict t => if t.all fun e => Error.settingNames.contains e.1 then [] else [.value]
  | .str s => if s.isEmpty then [] else [.value]
  | .list items => if items.isEmpty then [] else if items.all isText then [.value] else [.type]
  | _ => [.type]

/-- The faults of a value that is taken for a table of **profiles**. -/
def profilesFaults : Value → List Kind
  | .dict t => t.flatMap fun e => settingsFaults e.2
  | _ => [.attr]

/-- An entry of a table is taken, and what is no table **meets its faults**. -/
theorem meets_entryOr (v : Value) (key : String) (default : Value) :
    (entryOr v key default).Meets w (tableFaults v)
      (fun x => v = .dict (entriesOf v) ∧ x = ((entriesOf v).find? key).getD default) := by
  cases v with
  | dict t => exact .of_ok rfl ⟨rfl, rfl⟩
  | _ => exact .of_error rfl rfl

/-- The names among some values that are **no settings**. -/
def unknownAmong (keys : List Value) : List Value :=
  keys.filter fun
    | .str s => !Error.settingNames.contains s
    | _ => true

/-- The names that are read of a value must be **hashable**. -/
theorem meets_settingKeys {keys : List Value} (items : (v.items).outcome w = (.ok keys, w)) :
    (settingKeys v).Meets w (if keys.all (·.isHashable) then [] else [.type]) (· = keys) := by
  have hashed (keys : List Value) : (forIn keys PUnit.unit fun x _ => do
      if (!x.isHashable) = true then
        let name ← classNameOf x
        let _ ← (Run.raise (.unhashable name) : Run PUnit)
        pure (ForInStep.yield PUnit.unit)
      else pure (ForInStep.yield PUnit.unit) : Run PUnit).Meets w
        (if keys.all (·.isHashable) then [] else [.type]) fun _ => True := by
    induction keys with
    | nil => exact .of_ok rfl trivial
    | cons x rest ih =>
      rw [List.forIn_cons, List.all_cons]
      cases x.isHashable with
      | true => exact ih
      | false => exact .of_error rfl rfl
  exact Meets.after items ((hashed keys).done fun _ _ => ⟨keys, rfl, rfl⟩)

/-- Unknown settings are **wrong values**, if they are texts that can be listed. -/
theorem meets_unknownError {α : Type} {good : α → Prop} (place : String) (unknown : List Value) :
    (do Run.raise (← unknownError place unknown) : Run α).Meets w
      [if unknown.all isText then .value else .type] good := by
  rw [unknownError]
  generalize first : List.find? _ unknown = other
  have texts : other = none ↔ unknown.all isText = true := by
    rw [← first, List.find?_eq_none, List.all_eq_true]
    refine forall₂_congr fun v _ => ?_
    cases v <;> simp [isText]
  cases other with
  | none =>
    rw [if_pos (texts.1 rfl)]
    exact .of_error (e := .unknownSettings place _) rfl rfl
  | some other =>
    rw [if_neg fun all => Option.some_ne_none other (texts.2 all)]
    simp only [bind_assoc]
    refine Meets.after (Run.outcome_reading _ w) ?_
    split <;> exact .of_error (e := .misuse .type _) rfl rfl

/-- A value is read for the names in it; where these are known settings, **as a table**. -/
theorem meets_settingsOf_items {keys : List Value} (items : (v.items).outcome w = (.ok keys, w))
    (place : String) {own : List Kind} {good : Members → Prop}
    (known : unknownAmong keys = [] → (asTable v).Meets w own good) :
    (settingsOf place v).Meets w
      (if keys.all (·.isHashable) then
        if unknownAmong keys = [] then own
        else [if (unknownAmong keys).all isText then .value else .type]
      else [.type]) good := by
  rw [settingsOf]
  have hashed := meets_settingKeys items
  split at hashed
  · next all =>
    obtain ⟨_, read, rfl⟩ := hashed
    refine Meets.after read ?_
    show (if (unknownAmong _).isEmpty then _ else _ : Run Members).Meets _ _ _
    rw [if_pos all]
    by_cases none : unknownAmong ‹List Value› = []
    · rw [if_pos none, none]
      exact known none
    · rw [if_neg none, if_neg (by simpa using none)]
      exact meets_unknownError place _
  · next all =>
    rw [if_neg all]
    obtain ⟨e, failed, kind⟩ := hashed
    exact .of_error (Run.outcome_bind_of_error failed) kind

/-- A value in which nothing but texts is found holds settings, or **wrong values**. -/
theorem meets_settingsOf_texts {names : List String}
    (items : (v.items).outcome w = (.ok (names.map .str), w)) (place : String) {own : List Kind}
    {good : Members → Prop}
    (known : names.all Error.settingNames.contains = true → (asTable v).Meets w own good) :
    (settingsOf place v).Meets w
      (if names.all Error.settingNames.contains then own else [.value]) good := by
  have hashable : (names.map Value.str).all (·.isHashable) = true := by
    simp [Value.isHashable]
  have texts (unknown : List String) : (unknown.map Value.str).all isText = true := by
    simp [isText]
  have unknown : unknownAmong (names.map Value.str) =
      (names.filter fun n => !Error.settingNames.contains n).map .str := by
    rw [unknownAmong, List.filter_map]
    rfl
  have none : unknownAmong (names.map Value.str) = [] ↔
      names.all Error.settingNames.contains = true := by
    rw [unknown, List.map_eq_nil_iff, List.filter_eq_nil_iff, List.all_eq_true]
    exact forall₂_congr fun n _ => by rw [Bool.not_eq_true', Bool.not_eq_false]
  have met := meets_settingsOf_items items place fun empty => known (none.1 empty)
  rw [if_pos hashable] at met
  by_cases all : names.all Error.settingNames.contains = true
  · rw [if_pos all]
    rwa [if_pos (none.2 all)] at met
  · rw [if_neg all]
    rwa [if_neg fun empty => all (none.1 empty), unknown, if_pos (texts _)] at met

/-- A single character is **no setting**. -/
theorem not_setting_of_char (c : Char) : Error.settingNames.contains c.toString = false := by
  have long (name : String) (h : name.length ≠ 1) : c.toString ≠ name := by
    rintro rfl
    exact h (by simp)
  rw [← Bool.not_eq_true, List.contains_iff_mem]
  simp only [Error.settingNames, List.mem_cons, List.not_mem_nil, or_false, not_or]
  exact ⟨long _ (by decide), long _ (by decide), long _ (by decide)⟩

/-- An array of texts that are settings is **no sequence of pairs**: no setting has two
characters. -/
theorem meets_asTable_of_names {name : String} {good : Members → Prop}
    (setting : name ∈ Error.settingNames) (rest : List Value) :
    (asTable (.list (.str name :: rest))).Meets w [.value] good := by
  simp only [Error.settingNames, List.mem_cons, List.not_mem_nil, or_false] at setting
  rcases setting with rfl | rfl | rfl <;> exact .of_error rfl rfl

/-- Texts are the names that they are. -/
theorem exists_names {items : List Value} (texts : items.all isText = true) :
    ∃ names : List String, items = names.map Value.str := by
  induction items with
  | nil => exact ⟨[], rfl⟩
  | cons x rest ih =>
    rw [List.all_cons, Bool.and_eq_true] at texts
    obtain ⟨names, rfl⟩ := ih texts.2
    cases x with
    | str s => exact ⟨s :: names, rfl⟩
    | _ => cases texts.1

/-- An array is read for the names in it, and none of them will do. -/
theorem meets_settingsOf_array (place : String) (items : List Value) :
    (settingsOf place (.list items)).Meets w (settingsFaults (.list items)) (· = []) := by
  by_cases texts : items.all isText = true
  · obtain ⟨names, rfl⟩ := exists_names texts
    cases names with
    | nil => exact .of_ok rfl rfl
    | cons name rest =>
      have met : (settingsOf place (.list ((name :: rest).map .str))).Meets w
          (if _ then [.value] else [.value]) (· = []) :=
        meets_settingsOf_texts rfl place fun all =>
          meets_asTable_of_names (List.contains_iff_mem.1 (List.all_eq_true.1 all name (by simp))) _
      rw [ite_self] at met
      rw [settingsFaults, if_neg (by simp), if_pos texts]
      exact met
  · obtain ⟨x, hx, other⟩ := List.all_eq_false.1 (Bool.not_eq_true _ ▸ texts)
    have unknown : x ∈ unknownAmong items := by
      refine List.mem_filter.2 ⟨hx, ?_⟩
      cases x with
      | str s => exact absurd rfl other
      | _ => rfl
    have met : (settingsOf place (.list items)).Meets w
        (if _ then if _ then [] else [if _ then .value else .type] else [.type]) (· = []) :=
      meets_settingsOf_items rfl place fun none => by
        rw [none] at unknown
        cases unknown
    have mixed : ¬ (unknownAmong items).all isText = true := fun all =>
      other (List.all_eq_true.1 all x unknown)
    rw [if_neg (List.ne_nil_of_mem unknown), if_neg mixed, ite_self] at met
    rw [settingsFaults, if_neg (by simpa using List.ne_nil_of_mem hx), if_neg texts]
    exact met

/-- A text is read for its characters, and none of them will do. -/
theorem meets_settingsOf_text (place s : String) :
    (settingsOf place (.str s)).Meets w (settingsFaults (.str s)) (· = []) := by
  have items : ((Value.str s).items).outcome w =
      (.ok ((s.toList.map Char.toString).map .str), w) := by
    rw [List.map_map]
    rfl
  rcases chars : s.toList with _ | ⟨c, rest⟩
  · obtain rfl : s = "" := String.toList_eq_nil_iff.1 chars
    exact .of_ok rfl rfl
  · have known : (s.toList.map Char.toString).all Error.settingNames.contains = false := by
      rw [chars, List.map_cons, List.all_cons, not_setting_of_char, Bool.false_and]
    have filled : s.isEmpty = false := by
      rw [← Bool.not_eq_true, String.isEmpty_iff, ← String.toList_eq_nil_iff, chars]
      exact List.cons_ne_nil c rest
    have met : (settingsOf place (.str s)).Meets w (if _ then [] else [.value]) (· = []) :=
      meets_settingsOf_texts items place fun all =>
        (Bool.false_ne_true (known.symm.trans all)).elim
    rw [known] at met
    rwa [settingsFaults, filled]

/-- A table is read for its names, which must be settings. -/
theorem meets_settingsOf_table (place : String) (t : Members) :
    (settingsOf place (.dict t)).Meets w (settingsFaults (.dict t)) (· = t) := by
  have items : ((Value.dict t).items).outcome w = (.ok ((t.map (·.1)).map .str), w) := by
    rw [List.map_map]
    rfl
  have met : (settingsOf place (.dict t)).Meets w (if _ then [] else [.value]) (· = t) :=
    meets_settingsOf_texts items place fun _ => .of_ok rfl rfl
  rwa [List.all_map] at met

/-- The faults of a table of **profiles** are those of its entries. -/
theorem meets_profilesOf_table {place : String → String} {t : Members}
    (h : ∀ e ∈ t, (settingsOf (place e.1) e.2).Meets w (settingsFaults e.2) (· = entriesOf e.2)) :
    (profilesOf (.dict t) place).Meets w (profilesFaults (.dict t))
      (· = t.map fun e => (e.1, entriesOf e.2)) := by
  refine Meets.after (show (tableOf "items" (.dict t)).outcome w = (.ok t, w) from rfl) ?_
  refine Meets.mapM fun e he => (h e he).done fun own same => ⟨_, rfl, ?_⟩
  rw [same]

end Settings

end OrderedScope
