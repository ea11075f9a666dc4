import OrderedScope.Proofs.Ancestry
import OrderedScope.Proofs.Layers

/-!
# One Table Laid over Another

Tables of settings are laid over each other name by name, and where both hold a table under a name,
these are laid over each other in turn, to any depth. This module says what that comes to at every
path of names, whatever the shapes of the two: along the tables that both have, the upper value
counts, the lower one where there is no upper one, and the subtree below is that of the side that
counts, untouched. Tables that hold each name once give such a table again, and laying a table over
others a second time changes nothing.

## Main results

* `valueAt?_overlayValue`: what is at a path along which both have tables.
* `Distinct.overlayValue`: the layered table holds each name once, as its layers do.
* `alike_overlayValue_again`: a second layer of the same table changes nothing.
* `overlay_recursive`: all of this about two tables.
-/

namespace OrderedScope.Settings

variable {v u : Value} {xs ys : Members} {name : String} {path : List String}

/-! ### Paths -/

/-- The value at a **path** of names, each of which is looked up in the table before it. -/
def valueAt? : Value → List String → Option Value
  | v, [] => some v
  | .dict entries, name :: rest => (Members.find? entries name).bind (valueAt? · rest)
  | _, _ :: _ => none

/-- Along a path two values **have tables**: wherever the path goes on, there is one in both. -/
def TablesAlong (v u : Value) (path : List String) : Prop :=
  ∀ front rest, path = front ++ rest → rest ≠ [] →
    (∃ xs, valueAt? v front = some (.dict xs)) ∧ ∃ ys, valueAt? u front = some (.dict ys)

/-- What stands where the two layers have something or nothing. -/
def laid : Option Value → Option Value → Option Value
  | some x, some y => some (overlayValue x y)
  | some x, none => some x
  | none, high => high

/-- The upper value **replaces** the lower one: there is no table to lay it over, or it is none. -/
def Replaces (low high : Option Value) : Prop :=
  (∀ t, low ≠ some (.dict t)) ∨ ∃ y, high = some y ∧ ∀ t, y ≠ .dict t

/-- The value at a longer path is found **step by step**. -/
theorem valueAt?_append (v : Value) (path below : List String) :
    valueAt? v (path ++ below) = (valueAt? v path).bind (valueAt? · below) := by
  induction path generalizing v with
  | nil => rfl
  | cons name rest ih =>
      cases v with
      | dict t =>
          simp only [List.cons_append, valueAt?, Option.bind_assoc]
          exact Option.bind_congr fun x _ => ih x
      | _ => rfl

/-- Where nothing lies over it, the lower value is left. -/
theorem laid_none (low : Option Value) : laid low none = low := by
  cases low <;> rfl

/-- What is no table is laid over a value **in its place**. -/
theorem overlayValue_of_plain (x : Value) (plain : ∀ t, u ≠ .dict t) : overlayValue x u = u := by
  cases u with
  | dict t => exact absurd rfl (plain t)
  | _ => cases x <;> rfl

/-- A table is laid over the **entries** of a value. -/
theorem overlayValue_dict (x : Value) (t : Members) :
    overlayValue x (.dict t) = .dict (overlay (entriesOf x) t) := by
  cases x with
  | dict s => rfl
  | _ => exact congrArg Value.dict (nil_overlay t).symm

/-- What is no table has no entries. -/
theorem entriesOf_of_plain {x : Value} (plain : ∀ t, x ≠ .dict t) : entriesOf x = [] := by
  cases x with
  | dict t => exact absurd rfl (plain t)
  | _ => rfl

/-- Under each name of a layered table stands what the two layers have there. -/
theorem find?_overlay_eq_laid (xs ys : Members) (name : String) :
    (overlay xs ys).find? name = laid (xs.find? name) (ys.find? name) := by
  rw [find?_overlay]
  cases xs.find? name <;> cases ys.find? name <;> rfl

/-- Where the path goes on there are two tables, and behind the first name there are tables **along
the rest**. -/
theorem TablesAlong.cons {rest : List String} (h : TablesAlong v u (name :: rest)) :
    ∃ xs ys : Members, v = .dict xs ∧ u = .dict ys ∧ ∀ x y, xs.find? name = some x →
      ys.find? name = some y → TablesAlong x y rest := by
  obtain ⟨⟨xs, hv⟩, ys, hu⟩ := h [] (name :: rest) rfl (List.cons_ne_nil name rest)
  obtain rfl := Option.some.inj hv
  obtain rfl := Option.some.inj hu
  refine ⟨xs, ys, rfl, rfl, fun x y hx hy front more split goes => ?_⟩
  have further := h (name :: front) more (congrArg (name :: ·) split) goes
  simpa only [valueAt?, hx, hy, Option.bind_some] using further

/-- At a path along which both layers have tables stands **what the two have there**. -/
theorem valueAt?_overlayValue (along : TablesAlong v u path) :
    valueAt? (overlayValue v u) path = laid (valueAt? v path) (valueAt? u path) := by
  induction path generalizing v u with
  | nil => rfl
  | cons name rest ih =>
      obtain ⟨xs, ys, rfl, rfl, further⟩ := along.cons
      rw [overlayValue_dict, entriesOf, valueAt?, valueAt?, valueAt?, find?_overlay_eq_laid]
      rcases hx : xs.find? name with _ | x <;> rcases hy : ys.find? name with _ | y
      · rfl
      · rfl
      · exact (laid_none _).symm
      · exact ih (further x y hx hy)

/-- A value that replaces the lower one is taken. -/
theorem laid_of_replaces {low : Option Value} {y : Value} (h : Replaces low (some y)) :
    laid low (some y) = some y := by
  cases low with
  | none => rfl
  | some x =>
      rw [laid]
      by_cases table : ∃ t, y = .dict t
      · obtain ⟨t, rfl⟩ := table
        obtain plain | ⟨_, same, plain⟩ := h
        · rw [overlayValue_dict, entriesOf_of_plain fun s hs => plain s (congrArg some hs),
            nil_overlay]
        · exact absurd (Option.some.inj same).symm (plain t)
      · rw [overlayValue_of_plain x fun t ht => table ⟨t, ht⟩]

/-! ### Names -/

/-- Entries laid over a table keep its names. -/
theorem names_overlayEntries (xs ys : Members) :
    Members.names (overlayEntries xs ys) = xs.names := by
  induction xs with
  | nil => rfl
  | cons e rest ih =>
      rw [overlayEntries, Members.names, List.map_cons, ← Members.names, ih]
      rfl

/-- A layered table has the names of the lower layer, and behind them the **further** ones of the
upper layer. -/
theorem names_overlay (xs ys : Members) :
    (overlay xs ys).names = xs.names ++ ys.names.filter fun name => !xs.has name := by
  rw [overlay, Members.names, List.map_append, ← Members.names, names_overlayEntries, Members.names,
    Members.names, List.filter_map]
  rfl

/-- A second layer of a table adds **no name**. -/
theorem names_overlay_again (xs ys : Members) :
    (overlay (overlay xs ys) ys).names = (overlay xs ys).names := by
  rw [names_overlay (overlay xs ys), List.append_right_eq_self, List.filter_eq_nil_iff]
  intro name listed
  have upper := Members.mem_names_iff.1 listed
  rw [has_eq_isSome, find?_overlay_eq_laid]
  obtain ⟨y, hy⟩ := Option.isSome_iff_exists.1 upper
  rw [hy]
  cases xs.find? name <;> simp [laid]

/-- A value in which every table holds **each name once**, at any depth. -/
inductive Distinct : Value → Prop
  | plain (v : Value) : (∀ t, v ≠ .dict t) → Distinct v
  | table (t : Members) : t.names.Nodup → (∀ e ∈ t, Distinct e.2) → Distinct (.dict t)

/-- The entries of a document with distinct keys have distinct keys. -/
theorem Distinct.entriesOf (h : Distinct v) : Distinct (.dict (Settings.entriesOf v)) := by
  cases h with
  | plain _ plain =>
      rw [entriesOf_of_plain plain]
      exact .table [] List.nodup_nil nofun
  | table t single each => exact .table t single each

/-- Layers that hold each name once give a value that holds **each name once**. -/
theorem Distinct.overlayValue (hv : Distinct v) (hu : Distinct u) :
    Distinct (Settings.overlayValue v u) := by
  induction hu generalizing v with
  | plain u plain =>
      rw [overlayValue_of_plain v plain]
      exact .plain u plain
  | table ys single each ih =>
      rw [overlayValue_dict]
      obtain ⟨_, plain⟩ | ⟨_, low, lower⟩ := hv.entriesOf
      · exact absurd rfl (plain _)
      refine .table _ ?_ fun e he => ?_
      · rw [names_overlay, List.nodup_append]
        refine ⟨low, single.filter _, ?_⟩
        rintro name inLow _ further rfl
        rw [List.mem_filter, has_eq_isSome, Members.mem_names_iff.1 inLow] at further
        exact Bool.false_ne_true further.2
      · obtain old | new | ⟨x, y, hx, hy, made⟩ := mem_overlay he
        · exact lower e old
        · exact each e new
        · rw [made]
          exact ih _ hy (lower _ hx)

/-! ### A second time -/

/-- Two values are **alike** if they are the same up to the order of the names in their tables. -/
inductive Alike : Value → Value → Prop
  | refl (v : Value) : Alike v v
  | table (xs ys : Members) : xs.names.Perm ys.names →
      (∀ name x y, xs.find? name = some x → ys.find? name = some y → Alike x y) →
      Alike (.dict xs) (.dict ys)

/-- A table laid over another a second time changes nothing, if its **values** do not. -/
theorem alike_overlay_again (xs ys : Members)
    (each : ∀ name x y, ys.find? name = some y →
      Alike (overlayValue (overlayValue x y) y) (overlayValue x y)) :
    Alike (.dict (overlay (overlay xs ys) ys)) (.dict (overlay xs ys)) := by
  refine .table _ _ (.of_eq (names_overlay_again xs ys)) fun name again once hagain honce => ?_
  have laidAgain : laid (some once) (ys.find? name) = some again := by
    rw [← honce, ← find?_overlay_eq_laid, hagain]
  have laidOnce : laid (xs.find? name) (ys.find? name) = some once := by
    rw [← find?_overlay_eq_laid, honce]
  rcases high : ys.find? name with _ | y
  · rw [high, laid_none] at laidAgain
    obtain rfl := Option.some.inj laidAgain
    exact .refl _
  · -- Under a name of the upper layer alone, its value is as if it were laid over nothing.
    have alone : overlayValue .none y = y := by cases y <;> rfl
    rw [high] at laidAgain laidOnce
    obtain rfl := Option.some.inj laidAgain
    rcases low : xs.find? name with _ | x
    · rw [low] at laidOnce
      obtain rfl := Option.some.inj laidOnce
      have same := each name .none y high
      rwa [alone] at same
    · rw [low] at laidOnce
      obtain rfl := Option.some.inj laidOnce
      exact each name x y high

/-- A value within a table is smaller than the table. -/
theorem sizeOf_lt_of_find? {y : Value} (h : ys.find? name = some y) :
    sizeOf y < sizeOf (Value.dict ys) := by
  have entry := List.sizeOf_lt_of_mem (Members.mem_of_find? h)
  rw [Prod.mk.sizeOf_spec] at entry
  rw [Value.dict.sizeOf_spec]
  omega

/-- What is laid over a value is laid over it **once and for all**: a second layer of the same
changes nothing. -/
theorem alike_overlayValue_again (v u : Value) :
    Alike (overlayValue (overlayValue v u) u) (overlayValue v u) := by
  by_cases table : ∃ ys, u = .dict ys
  · obtain ⟨ys, rfl⟩ := table
    rw [overlayValue_dict v, overlayValue_dict, entriesOf]
    exact alike_overlay_again _ ys fun name x y high => alike_overlayValue_again x y
  · have plain : ∀ t, u ≠ .dict t := fun t ht => table ⟨t, ht⟩
    rw [overlayValue_of_plain _ plain, overlayValue_of_plain _ plain]
    exact .refl u
termination_by sizeOf u
decreasing_by
  subst u
  exact sizeOf_lt_of_find? high

/-! ### Two tables -/

/-- One table laid over another is their **recursive merge**, whatever the two hold.

* At a path along which both have tables something stands exactly if it does in one of them. That is
  the upper value, where it replaces the lower one; the lower one, where there is no upper one; and
  two tables, laid over each other. Below the path the value that counts is untouched.
* The merge of tables that hold each name once, at any depth, holds each name once.
* An empty layer changes nothing, nor does a table laid over itself, nor a second layer of the same
  table, up to the order of the names. -/
theorem overlay_recursive (a b : Members) :
    (∀ path ≠ [], TablesAlong (.dict a) (.dict b) path →
      let low := valueAt? (.dict a) path
      let high := valueAt? (.dict b) path
      let merged := valueAt? (.dict (overlay a b)) path
      (merged.isSome = true ↔ low.isSome = true ∨ high.isSome = true) ∧
      (∀ y, high = some y → Replaces low high → merged = some y) ∧
      (high = none → merged = low) ∧
      (∀ xs ys, low = some (.dict xs) → high = some (.dict ys) →
        merged = some (.dict (overlay xs ys))) ∧
      ∀ below,
        (high = none →
          valueAt? (.dict (overlay a b)) (path ++ below) = valueAt? (.dict a) (path ++ below)) ∧
        (high.isSome = true → Replaces low high →
          valueAt? (.dict (overlay a b)) (path ++ below) = valueAt? (.dict b) (path ++ below))) ∧
    (Distinct (.dict a) → Distinct (.dict b) → Distinct (.dict (overlay a b))) ∧
    overlay a [] = a ∧ overlay [] b = b ∧
    Alike (.dict (overlay a a)) (.dict a) ∧
    Alike (.dict (overlay (overlay a b) b)) (.dict (overlay a b)) := by
  refine ⟨fun path _ along => ?_, fun ha hb => ?_, overlay_nil a, nil_overlay b, ?_, ?_⟩
  · intro low high merged
    have stands : merged = laid low high := valueAt?_overlayValue along
    have replaced (y : Value) (upper : high = some y) (h : Replaces low high) :
        merged = some y := by
      rw [upper] at h
      rw [stands, upper, laid_of_replaces h]
    have kept (none : high = none) : merged = low := by rw [stands, none, laid_none]
    refine ⟨?_, replaced, kept, ?_, fun below => ⟨fun none => ?_, fun some h => ?_⟩⟩
    · rw [stands]
      cases low <;> cases high <;> simp [laid]
    · intro xs ys lower upper
      rw [stands, lower, upper]
      rfl
    · rw [valueAt?_append, valueAt?_append]
      exact congrArg (Option.bind · _) (kept none)
    · obtain ⟨y, upper⟩ := Option.isSome_iff_exists.1 some
      rw [valueAt?_append, valueAt?_append]
      exact congrArg (Option.bind · _) ((replaced y upper h).trans upper.symm)
  · exact ha.overlayValue hb
  · have empty : overlay (entriesOf .none) a = a := nil_overlay a
    have again := alike_overlayValue_again .none (.dict a)
    rwa [overlayValue_dict .none, empty] at again
  · exact alike_overlayValue_again (.dict a) (.dict b)

/-- Of two tables that share one under `b`, whose `c` the upper one replaces, `d` stays and `e`
comes in. -/
theorem overlay_recursive_shared :
    let base : Members := [("a", .int 1), ("b", .dict [("c", .int 2), ("d", .int 3)])]
    let upper : Members := [("b", .dict [("c", .int 99), ("e", .int 5)])]
    TablesAlong (.dict base) (.dict upper) ["b", "c"] ∧
    valueAt? (.dict (overlay base upper)) ["b", "c"] = some (.int 99) ∧
    valueAt? (.dict (overlay base upper)) ["b"] =
      some (.dict (overlay [("c", .int 2), ("d", .int 3)] [("c", .int 99), ("e", .int 5)])) ∧
    valueAt? (.dict (overlay base upper)) ["a"] = some (.int 1) := by
  intro base upper
  have one (name : String) : TablesAlong (.dict base) (.dict upper) [name] := by
    intro front rest split goes
    obtain ⟨rfl, -⟩ | ⟨inner, rfl, inside⟩ := List.cons_eq_append_iff.1 split
    · exact ⟨⟨base, rfl⟩, upper, rfl⟩
    · exact absurd (List.nil_eq_append_iff.1 inside).2 goes
  have two : TablesAlong (.dict base) (.dict upper) ["b", "c"] := by
    intro front rest split goes
    obtain ⟨rfl, -⟩ | ⟨inner, rfl, inside⟩ := List.cons_eq_append_iff.1 split
    · exact ⟨⟨base, rfl⟩, upper, rfl⟩
    · obtain ⟨rfl, -⟩ | ⟨last, rfl, behind⟩ := List.cons_eq_append_iff.1 inside
      · exact ⟨⟨_, rfl⟩, _, rfl⟩
      · exact absurd (List.nil_eq_append_iff.1 behind).2 goes
  obtain ⟨paths, -⟩ := overlay_recursive base upper
  obtain ⟨-, replaced, -⟩ := paths ["b", "c"] nofun two
  obtain ⟨-, -, -, both, -⟩ := paths ["b"] nofun (one "b")
  obtain ⟨-, -, kept, -⟩ := paths ["a"] nofun (one "a")
  exact ⟨two, replaced _ rfl (.inl nofun), both _ _ rfl rfl, kept rfl⟩

end OrderedScope.Settings
