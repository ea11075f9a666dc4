import Mathlib.Data.List.TakeWhile
import Mathlib.Data.String.Basic
import OrderedScope.Interpreter
import OrderedScope.Proofs.Listing

/-!
# What References Refer To

A text spells a reference in one way only: without a colon it is the name of a module, and with one
the last colon stands between the name of a module and a path of names with dots between them. The
reference refers to the module that is registered under the name, or to what access by the names of
the path comes to, one after the other.

The errors follow the same stages. A text that spells nothing is a bad value, an unknown module is
an import error and a missing attribute is an attribute error; but the name of a module that begins
with a dot is reported as an error of type.

## Main results

* `splitOn_eq_iff`: the names between the dots of a text.
* `split_ok_iff`, `split_error_iff`: which reference a text spells.
* `outcome_moduleNamed`: the module of a name.
* `Calm.get_misses`: access without hooks and raising members fails only for missing attributes.
* `load_reference`: what a text refers to, and with which errors it does not.
-/

namespace OrderedScope

/-! ### Texts between dots -/

namespace Text

open String

/-- Splitting from a place within a text at a character splits **the characters** that are left. -/
theorem splitOnAux_of_valid (c : Char) (l m r : List Char) (done : List String) :
    splitOnAux (ofList (l ++ m ++ r)) (ofList [c]) ⟨utf8Len l⟩ ⟨utf8Len l + utf8Len m⟩ 0 done =
      done.reverse ++ (List.splitOnPPrepend (· == c) r m.reverse).map ofList := by
  induction r generalizing l m done with
  | nil =>
    have ended : Pos.Raw.atEnd (ofList (l ++ m ++ [])) ⟨utf8Len l + utf8Len m⟩ = true := by
      simpa only [utf8Len_append] using (atEnd_of_valid (l ++ m) []).2 rfl
    rw [splitOnAux, if_pos ended, extract_of_valid]
    simp
  | cons d r ih =>
    have within : ¬ Pos.Raw.atEnd (ofList (l ++ m ++ d :: r)) ⟨utf8Len l + utf8Len m⟩ = true := by
      rw [← utf8Len_append, atEnd_of_valid]
      simp
    have here : Pos.Raw.get (ofList (l ++ m ++ d :: r)) ⟨utf8Len l + utf8Len m⟩ = d := by
      rw [← utf8Len_append, get_of_valid]
      rfl
    have next : Pos.Raw.next (ofList (l ++ m ++ d :: r)) ⟨utf8Len l + utf8Len m⟩ =
        ⟨utf8Len l + utf8Len m + d.utf8Size⟩ := by
      rw [← utf8Len_append, next_of_valid]
    have first : Pos.Raw.get (ofList [c]) 0 = c := get_of_valid [] [c]
    have second : Pos.Raw.next (ofList [c]) 0 = ⟨c.utf8Size⟩ := by simpa using next_of_valid [] c []
    have last : Pos.Raw.atEnd (ofList [c]) ⟨c.utf8Size⟩ = true := by
      simpa only [List.append_nil, utf8Len_cons, utf8Len_nil, Nat.zero_add] using
        (atEnd_of_valid [c] []).2 rfl
    rw [splitOnAux, if_neg within, here, first, List.splitOnPPrepend_cons_eq_if]
    by_cases same : d = c
    · subst same
      have back : (⟨utf8Len l + utf8Len m + d.utf8Size⟩ : Pos.Raw).unoffsetBy ⟨d.utf8Size⟩ =
          ⟨utf8Len l + utf8Len m⟩ := by
        simp [Pos.Raw.unoffsetBy]
      simp only [BEq.rfl, ↓reduceIte, next, second, last, back, extract_of_valid]
      have rest := ih (l ++ m ++ [d]) [] (ofList m :: done)
      simp only [utf8Len_append, utf8Len_cons, utf8Len_nil, Nat.zero_add, Nat.add_zero,
        List.append_nil, List.append_assoc, List.singleton_append] at rest ⊢
      rw [Nat.add_assoc, rest]
      simp
    · rw [if_neg (by simpa using same), if_neg (by simpa using same)]
      have stay : (⟨utf8Len l + utf8Len m⟩ : Pos.Raw).unoffsetBy 0 = ⟨utf8Len l + utf8Len m⟩ := by
        simp
      rw [stay, next]
      simpa [Nat.add_assoc] using ih l (m ++ [d]) done

/-- Splitting a text at a character splits its characters. -/
theorem splitOn_eq_map (text : String) (c : Char) :
    text.splitOn (ofList [c]) = (text.toList.splitOn c).map ofList := by
  have whole := splitOnAux_of_valid c [] [] text.toList []
  rw [splitOn, if_neg (by simp)]
  simpa [List.splitOn_eq_splitOnP] using whole

/-- No part of a split text holds the separator. -/
theorem not_mem_of_mem_splitOn {c : Char} {cs part : List Char} (h : part ∈ cs.splitOn c) :
    c ∉ part := by
  induction cs generalizing part with
  | nil => simp_all
  | cons d cs ih =>
    rw [List.splitOn_cons_eq_if_modifyHead] at h
    obtain ⟨first, rest, parts⟩ := List.exists_cons_of_ne_nil (List.splitOn_ne_nil c cs)
    rw [parts] at h ih
    split at h
    · rcases List.mem_cons.1 h with rfl | h
      · exact List.not_mem_nil
      · exact ih h
    · rename_i other
      rcases List.mem_cons.1 h with rfl | h
      · have apart : c ≠ d := fun same => other (beq_iff_eq.2 same.symm)
        exact fun h => (List.mem_cons.1 h).elim apart (ih List.mem_cons_self)
      · exact ih (List.mem_cons_of_mem _ h)

/-- Names stand **between the dots** of a text. -/
structure Dotted (names : List String) (text : String) : Prop where
  text_eq : ".".intercalate names = text
  nonempty : names ≠ []
  plain : ∀ name ∈ names, '.' ∉ name.toList

/-- Splitting a text at its dots gives the names **between** them. -/
theorem splitOn_eq_iff {text : String} {names : List String} :
    text.splitOn "." = names ↔ Dotted names text := by
  have split : text.splitOn "." = (text.toList.splitOn '.').map ofList := splitOn_eq_map text '.'
  rw [split]
  constructor
  · rintro rfl
    refine ⟨?_, by simp, ?_⟩
    · rw [← String.toList_inj, String.toList_intercalate, List.map_map]
      have same : String.toList ∘ ofList = id := funext fun _ => String.toList_ofList
      rw [same, List.map_id]
      exact List.intercalate_splitOn '.'
    · intro name mem
      obtain ⟨part, within, rfl⟩ := List.mem_map.1 mem
      rw [String.toList_ofList]
      exact not_mem_of_mem_splitOn within
  · rintro ⟨rfl, nonempty, plain⟩
    have parts : ['.'].intercalate (names.map String.toList) = (".".intercalate names).toList := by
      rw [String.toList_intercalate]
      rfl
    rw [← parts, List.splitOn_intercalate '.' (by simpa using plain) (by simpa using nonempty),
      List.map_map]
    have same : ofList ∘ String.toList = id := funext fun _ => String.ofList_toList
    rw [same, List.map_id]

end Text

namespace Reference

open Text Attribute

variable {run : Runner} {w w₁ w₂ : World} {text : String} {r : Reference} {e : Error}

/-! ### What a text spells -/

/-- A text **spells** a reference: without a colon the module of that name, and otherwise what
stands before its last colon and the names between the dots behind it, where neither is empty. -/
inductive Spells (text : String) : Reference → Prop
  | whole : text ≠ "" → ':' ∉ text.toList → Spells text ⟨text, []⟩
  | within {module after : String} {names : List String} : text = module ++ ":" ++ after →
      ':' ∉ after.toList → module ≠ "" → after ≠ "" → Dotted names after →
      Spells text ⟨module, names⟩

/-- A text is **malformed** if there is nothing before its last colon or nothing behind it. -/
def Malformed (text : String) : Prop :=
  ∃ module after, text = module ++ ":" ++ after ∧ ':' ∉ after.toList ∧ (module = "" ∨ after = "")

/-- The **last colon** of a text. -/
theorem splitLast?_eq_some_iff {cs before after : List Char} :
    splitLast? cs = some (before, after) ↔ cs = before ++ ':' :: after ∧ ':' ∉ after := by
  have colonless {back : List Char} : ':' ∉ back ↔ ∀ c ∈ back, (c != ':') = true := by
    simp only [bne_iff_ne]
    exact ⟨fun h c hc same => h (same ▸ hc), fun h hc => h _ hc rfl⟩
  rw [splitLast?]
  constructor
  · intro h
    have whole := List.takeWhile_append_dropWhile (p := (· != ':')) (l := cs.reverse)
    split at h
    · cases h
    · rename_i c rest found
      cases h
      have colon : c = ':' := by
        have stopped := List.head?_dropWhile_not (· != ':') cs.reverse
        rw [found] at stopped
        simpa using stopped
      subst colon
      rw [found] at whole
      refine ⟨?_, ?_⟩
      · have turned := congrArg List.reverse whole
        simpa using turned.symm
      · rw [List.mem_reverse, colonless]
        exact List.all_eq_true.1 List.all_takeWhile
  · rintro ⟨rfl, free⟩
    have plain : ∀ c ∈ after.reverse, (c != ':') = true :=
      colonless.1 (mt List.mem_reverse.1 free)
    have turned : (before ++ ':' :: after).reverse = after.reverse ++ ':' :: before.reverse := by
      simp
    rw [turned, List.dropWhile_append_of_pos plain, List.takeWhile_append_of_pos plain]
    simp

/-- A text is not split exactly if it holds no colon. -/
theorem splitLast?_eq_none_iff {cs : List Char} : splitLast? cs = none ↔ ':' ∉ cs := by
  constructor
  · intro h mem
    rw [splitLast?] at h
    split at h
    · rename_i colonless
      have other := List.dropWhile_eq_nil_iff.1 colonless ':' (List.mem_reverse.2 mem)
      simp at other
    · cases h
  · intro free
    cases found : splitLast? cs with
    | none => rfl
    | some sides =>
      obtain ⟨rfl, -⟩ := splitLast?_eq_some_iff.1 found
      simp at free

/-- The sides of the last colon of a text, as texts. -/
theorem splitLast?_toList_iff {before after : List Char} :
    splitLast? text.toList = some (before, after) ↔
      text = String.ofList before ++ ":" ++ String.ofList after ∧ ':' ∉ after := by
  have parts : (String.ofList before ++ ":" ++ String.ofList after).toList =
      before ++ ':' :: after := by
    simp
  rw [splitLast?_eq_some_iff, ← parts, String.toList_inj]

/-- A text with a colon is split **at its last one**, if neither side is empty. -/
theorem split_of_parts {module after : String} (parts : text = module ++ ":" ++ after)
    (free : ':' ∉ after.toList) :
    split text = if module = "" ∨ after = "" then .error (.malformedReference text)
      else .ok ⟨module, after.splitOn "."⟩ := by
  have found : splitLast? text.toList = some (module.toList, after.toList) :=
    splitLast?_toList_iff.2 (by simpa using ⟨parts, free⟩)
  have nonempty : text ≠ "" := by
    rintro rfl
    simp at parts
  rw [split, if_neg (by simpa using nonempty), found]
  simp

/-- A text is split into **the reference that it spells**. -/
theorem split_ok_iff : split text = .ok r ↔ Spells text r := by
  have sides (s : List Char) : s.isEmpty = false ↔ String.ofList s ≠ "" := by
    cases s <;> simp
  constructor
  · intro h
    rw [split] at h
    split at h
    · cases h
    · rename_i nonempty
      split at h
      · rename_i colonless
        cases h
        exact .whole (by simpa using nonempty) (splitLast?_eq_none_iff.1 colonless)
      · rename_i before after found
        split at h
        · cases h
        · rename_i full
          cases h
          simp only [Bool.or_eq_true, not_or, Bool.not_eq_true, sides] at full
          obtain ⟨parts, free⟩ := splitLast?_toList_iff.1 found
          exact .within parts (by simpa using free) full.1 full.2 (splitOn_eq_iff.1 rfl)
  · intro h
    cases h with
    | whole nonempty free =>
      rw [split, if_neg (by simpa using nonempty), splitLast?_eq_none_iff.2 free]
    | @within module after names parts free left right dotted =>
      rw [split_of_parts parts free, if_neg (not_or.2 ⟨left, right⟩), splitOn_eq_iff.2 dotted]

/-- Colons before the last one belong to the module, and between two dots stands an empty name. -/
example : split "a:b:c..d" = .ok ⟨"a:b", ["c", "", "d"]⟩ := by cbv

/-- A text that spells nothing is **empty or malformed**. -/
theorem split_error_iff : split text = .error e ↔
    text = "" ∧ e = .emptyReference ∨ Malformed text ∧ e = .malformedReference text := by
  constructor
  · intro h
    rw [split] at h
    split at h
    · rename_i empty
      cases h
      exact Or.inl ⟨by simpa using empty, rfl⟩
    · split at h
      · cases h
      · rename_i before after found
        split at h
        · rename_i missing
          cases h
          obtain ⟨parts, free⟩ := splitLast?_toList_iff.1 found
          exact Or.inr ⟨⟨_, _, parts, by simpa using free, by simpa using missing⟩, rfl⟩
        · cases h
  · rintro (⟨rfl, rfl⟩ | ⟨⟨module, after, parts, free, missing⟩, rfl⟩)
    · rfl
    · rw [split_of_parts parts free, if_pos missing]

/-! ### Modules by their names -/

/-- The name of a module is **relative** if it begins with a dot. -/
def Relative (name : String) : Prop := ['.'] <+: name.toList

instance (name : String) : Decidable (Relative name) :=
  inferInstanceAs (Decidable (['.'] <+: name.toList))

/-- The **places** of all modules can be read: no module has a hook, and where it tells the places
of its parts it tells nothing or something that has items. -/
def ReadablePlaces (w : World) : Prop :=
  ∀ (i : ModuleId) (m : ModuleRec), w.modules[i]? = some m →
    m.members.find? "__getattr__" = none ∧
    ∀ x : Value, m.members.find? "__path__" = some x →
      x = .none ∨ ∃ xs, x.items.outcome w = (.ok xs, w)

/-- A name starts with a dot exactly if it is relative. -/
theorem startsWith_dot_iff {name : String} : name.startsWith "." = true ↔ Relative name :=
  String.startsWith_string_iff

/-- The parts of a dotted name **make it up** again. -/
theorem dotted_splitOn (name : String) : dotted (name.splitOn ".").reverse = name := by
  rw [dotted, List.reverse_reverse]
  exact (splitOn_eq_iff.1 rfl).text_eq

/-- A dotted name has a part. -/
theorem splitOn_reverse_ne_nil (name : String) : (name.splitOn ".").reverse ≠ [] :=
  mt List.reverse_eq_nil_iff.1 (splitOn_eq_iff.1 rfl).nonempty

/-- A module that is found exists. -/
theorem exists_of_findModule? {name : String} {i : ModuleId} (h : w.findModule? name = some i) :
    ∃ m, w.modules[i]? = some m := by
  obtain ⟨bound, -⟩ := Array.findIdx?_eq_some_iff_getElem.1 h
  exact ⟨_, Array.getElem?_eq_getElem bound⟩

/-- Where a module with readable places tells **nothing** that helps, its parts are not known. -/
theorem outcome_get?_places (places : ReadablePlaces w) {i : ModuleId} {m : ModuleRec}
    (known : w.modules[i]? = some m) :
    (get? run (.module i) "__path__").outcome w = (.ok (m.members.find? "__path__"), w) := by
  have free : w.typeMember? (.native .module) "__path__" = none := by
    rw [World.typeMember?_native]
    rfl
  rw [get?, Run.outcome_optional, outcome_get_module known free, (places i m known).1]
  cases m.members.find? "__path__" with
  | some x => rfl
  | none => rfl

/-- A module that is registered under the name of some parts is **given**. -/
theorem outcome_moduleOf_of_known {parts : List String} {i : ModuleId} (nonempty : parts ≠ [])
    (known : w.findModule? (dotted parts) = some i) :
    (moduleOf run parts).outcome w = (.ok (.module i), w) := by
  cases parts with
  | nil => exact absurd rfl nonempty
  | cons part above =>
    rw [moduleOf, Run.outcome_bind_of_ok (Run.outcome_reading _ w), known]
    rfl

/-- A name of which the parts are given is **looked up** among the registered modules; an unknown
one is an import error. -/
theorem outcome_moduleOf (run : Runner) (places : ReadablePlaces w) {parts : List String}
    (nonempty : parts ≠ []) :
    (∃ i, w.findModule? (dotted parts) = some i ∧
      (moduleOf run parts).outcome w = (.ok (.module i), w)) ∨
    (w.findModule? (dotted parts) = none ∧ ∃ name parent,
      (moduleOf run parts).outcome w = (.error (.raised (.noModule name parent)), w)) := by
  induction parts with
  | nil => exact absurd rfl nonempty
  | cons part above ih =>
    cases found : w.findModule? (dotted (part :: above)) with
    | some i => exact Or.inl ⟨i, rfl, outcome_moduleOf_of_known nonempty found⟩
    | none =>
      refine Or.inr ⟨rfl, ?_⟩
      rw [moduleOf, Run.outcome_bind_of_ok (Run.outcome_reading _ w), found]
      simp only
      split
      · exact ⟨_, _, rfl⟩
      · rename_i inner
        have more : above ≠ [] := by
          rintro rfl
          exact inner rfl
        rcases ih more with ⟨i, known, given⟩ | ⟨-, name, parent, given⟩
        · obtain ⟨m, there⟩ := exists_of_findModule? known
          rw [Run.outcome_bind_of_ok given,
            Run.outcome_bind_of_ok (outcome_get?_places places there)]
          split
          · exact ⟨_, _, rfl⟩
          · exact ⟨_, _, rfl⟩
          · rename_i x other told
            rcases (places i m there).2 x told with rfl | ⟨xs, items⟩
            · exact absurd rfl other
            · exact ⟨_, _, Run.outcome_bind_of_ok items⟩
        · exact ⟨name, parent, Run.outcome_bind_of_error given⟩

/-- Only a **registered** module is given. -/
theorem moduleOf_gives {parts : List String} {v : Value}
    (h : (moduleOf run parts).outcome w = (.ok v, w₁)) :
    ∃ i, w.findModule? (dotted parts) = some i ∧ v = .module i ∧ w₁ = w := by
  cases parts with
  | nil => cases h
  | cons part above =>
    rw [moduleOf, Run.outcome_bind_of_ok (Run.outcome_reading _ w)] at h
    cases found : w.findModule? (dotted (part :: above)) with
    | some i =>
      rw [found] at h
      cases h
      exact ⟨i, rfl, rfl, rfl⟩
    | none =>
      -- Whatever the places are, nothing is found in them.
      rw [found] at h
      simp only at h
      split at h
      · cases h
      · obtain ⟨parent, w₂, -, h⟩ := Run.outcome_bind_ok_iff.1 h
        obtain ⟨told, w₃, -, h⟩ := Run.outcome_bind_ok_iff.1 h
        split at h
        · cases h
        · cases h
        · obtain ⟨_, _, -, h⟩ := Run.outcome_bind_ok_iff.1 h
          cases h

section Named

variable {name : String}

/-- A relative name is refused. -/
theorem outcome_moduleNamed_relative (relative : Relative name) :
    (moduleNamed run name).outcome w = (.error (.raised (.relativeReference name)), w) := by
  rw [moduleNamed, if_pos (startsWith_dot_iff.2 relative)]
  rfl

variable (absolute : ¬ Relative name)

include absolute

/-- A module is sought by the parts of its name. -/
theorem moduleNamed_eq : moduleNamed run name = moduleOf run (name.splitOn ".").reverse := by
  rw [moduleNamed, if_neg (mt startsWith_dot_iff.1 absolute)]

/-- The module of a name is the one that is **registered** under it. -/
theorem outcome_moduleNamed_ok_iff {v : Value} :
    (moduleNamed run name).outcome w = (.ok v, w₁) ↔
      ∃ i, w.findModule? name = some i ∧ v = .module i ∧ w₁ = w := by
  rw [moduleNamed_eq absolute]
  constructor
  · intro h
    obtain ⟨i, found, given⟩ := moduleOf_gives h
    rw [dotted_splitOn] at found
    exact ⟨i, found, given⟩
  · rintro ⟨i, found, rfl, rfl⟩
    exact outcome_moduleOf_of_known (splitOn_reverse_ne_nil name) (by rw [dotted_splitOn, found])

/-- A name under which no module is registered is an **import error**. -/
theorem outcome_moduleNamed_unknown (places : ReadablePlaces w)
    (unknown : w.findModule? name = none) :
    ∃ e, e.isA .importing = true ∧ (moduleNamed run name).outcome w = (.error (.raised e), w) := by
  rw [moduleNamed_eq absolute]
  rcases outcome_moduleOf run places (splitOn_reverse_ne_nil name) with
    ⟨i, found, -⟩ | ⟨-, _, _, given⟩
  · rw [dotted_splitOn, unknown] at found
    cases found
  · exact ⟨_, rfl, given⟩

end Named

/-! ### Access that runs no hook -/

section Calm

variable {v m : Value} {name : String} {raw : Value} {inst : Option Value} {owner : ClassRef}

/-- A member **raises nothing**: the code by which it is computed, if there is any, does not, a slot
is asked of an instance of the class that declares it, and a cell is asked only if it is filled. -/
structure RaisesNothing (run : Runner) (w : World) (raw : Value) (inst : Option Value)
    (owner : ClassRef) : Prop where
  computed : ∀ t, w.bindTask? raw inst owner = some t →
    ∀ e w₁, (run t).outcome w ≠ (.error (.raised e), w₁)
  slot : ∀ declarer field x, raw = .slot declarer field → inst = some x →
    w.isSubclass (w.classOf x) (.world declarer) = true
  filled : ∀ i place, inst = some (.cell i place) →
    (field? w "cell_contents" (.cell i place)).isSome = true

/-- What raises where it finds nothing **found nothing**. -/
theorem elim_raises {found : Option Value} {missing : Error}
    (raised : (found.elim (Run.raise missing) pure : Run Value).outcome w =
      (.error (.raised e), w₁)) : e = missing ∧ w₁ = w := by
  cases found <;> cases raised
  exact ⟨rfl, rfl⟩

/-- A filled cell holds something under **each of its fields**. -/
theorem field?_cell_isSome {i : FunctionId} {place : Nat}
    (filled : (field? w "cell_contents" (.cell i place)).isSome = true) (name : String) :
    (field? w name (.cell i place)).isSome = true := by
  rw [field?.eq_def]
  split
  · rfl
  · exact filled

/-- A field that holds nothing is a **missing attribute**, unless it is an empty cell's. -/
theorem field_misses
    (filled : ∀ i place, v = .cell i place →
      (field? w "cell_contents" (.cell i place)).isSome = true)
    (raised : (field owner name v).outcome w = (.error (.raised e), w₁)) :
    e.isA .attr = true ∧ w₁ = w := by
  rw [field, Run.outcome_bind_of_ok (Run.outcome_get w)] at raised
  by_cases cell : ∃ i place, v = .cell i place
  · obtain ⟨i, place, rfl⟩ := cell
    obtain ⟨x, held⟩ := Option.isSome_iff_exists.1 (field?_cell_isSome (filled i place rfl) name)
    rw [held] at raised
    cases raised
  · obtain ⟨rfl, rfl⟩ := elim_raises raised
    refine ⟨?_, rfl⟩
    cases v with
    | cell i place => exact absurd ⟨i, place, rfl⟩ cell
    | _ => rfl

/-- A slot that holds nothing is a **missing attribute** of an instance of its class. -/
theorem slotField_misses {declarer : Nat}
    (own : w.isSubclass (w.classOf v) (.world declarer) = true)
    (raised : (slotField declarer name v).outcome w = (.error (.raised e), w₁)) :
    e.isA .attr = true ∧ w₁ = w := by
  rw [slotField, Run.outcome_bind_of_ok (Run.outcome_get w)] at raised
  simp only [own, ↓reduceIte] at raised
  cases v with
  | object i =>
    obtain ⟨rfl, rfl⟩ := elim_raises raised
    exact ⟨rfl, rfl⟩
  | _ =>
    cases raised
    exact ⟨rfl, rfl⟩

/-- What is neither a function nor a field is given by the reader of its class, or as it is, and
**neither raises** where nothing is raised. -/
theorem RaisesNothing.not_raised (h : RaisesNothing run w raw inst owner)
    {next : Option Value → Run Value}
    (asked : w.bindTask? raw inst owner = (w.typeMember? (w.classOf raw) "__get__").map fun f =>
      .call f [raw, inst.getD .none, .cls owner] [])
    (asks : ∀ f, next (some f) = run (.call f [raw, inst.getD .none, .cls owner] []))
    (gives : next none = pure raw) :
    (Run.reading (fun w => w.typeMember? (w.classOf raw) "__get__") >>= next).outcome w ≠
      (.error (.raised e), w₁) := by
  intro raised
  rw [Run.outcome_bind_of_ok (Run.outcome_reading _ w)] at raised
  rcases found : w.typeMember? (w.classOf raw) "__get__" with _ | f <;> rw [found] at asked raised
  · rw [gives] at raised
    cases raised
  · rw [asks] at raised
    exact h.computed _ asked e w₁ raised

/-- A member that raises nothing is given, or it says that the attribute is **missing**. -/
theorem RaisesNothing.bind_misses (h : RaisesNothing run w raw inst owner)
    (raised : (bind run raw inst owner).outcome w = (.error (.raised e), w₁)) :
    e.isA .attr = true ∧ w₁ = w := by
  cases raw with
  | fn i => cases inst <;> cases raised
  | libFn f => cases inst <;> cases raised
  | staticMethod f => cases raised
  | classMethod f => cases raised
  | property getter setter name =>
    cases inst with
    | none => cases raised
    | some v =>
      cases getter with
      | none =>
        cases raised
        exact ⟨rfl, rfl⟩
      | some getter => exact absurd raised (h.computed _ rfl e w₁)
  | nativeMember declarer kind name =>
    cases inst with
    | none => cases kind <;> cases raised
    | some v =>
      cases kind with
      | getset =>
        exact field_misses (fun i place same => h.filled i place (congrArg some same)) raised
      | slot =>
        exact field_misses (fun i place same => h.filled i place (congrArg some same)) raised
      | _ => cases raised
  | slot declarer name =>
    cases inst with
    | none => cases raised
    | some v => exact slotField_misses (h.slot declarer name v rfl rfl) raised
  | _ => exact absurd raised (h.not_raised rfl (fun _ => rfl) rfl)

/-- A value is **calm** under a name: no hook answers for it, and the member that is used raises
nothing. -/
structure Calm (run : Runner) (w : World) (v : Value) (name : String) : Prop where
  unhooked : w.Unhooked v
  member : ∀ raw inst owner, w.used? v name = some (.member raw inst owner) →
    RaisesNothing run w raw inst owner

/-- What a calm value gives by its entry, it gives or says that it is **missing**. -/
theorem Calm.give_misses {entry : TableEntry} (h : Calm run w v name)
    (used : w.used? v name = some entry)
    (raised : (entry.give run).outcome w = (.error (.raised e), w₁)) :
    e.isA .attr = true ∧ w₁ = w := by
  cases entry with
  | own x => cases raised
  | member raw inst owner => exact (h.member raw inst owner used).bind_misses raised

/-- Access to a calm value fails only for a **missing attribute**. -/
theorem Calm.get_misses (h : Calm run w v name)
    (raised : (get run v name).outcome w = (.error (.raised e), w₁)) : e.isA .attr = true := by
  rw [outcome_get_of_unhooked h.unhooked.front h.unhooked.back] at raised
  rcases used : w.used? v name with _ | entry
  · obtain ⟨missing, attr, misses⟩ := standardGet_misses run h.unhooked used
    cases misses.symm.trans raised
    exact attr
  by_cases module : ∃ i, v = .module i
  · obtain ⟨i, rfl⟩ := module
    have there : w.objectUsed? (.module i) name = some entry := used
    rcases got : (objectGet run (.module i) name).outcome w with ⟨(e' | _) | m, w₂⟩
    · obtain ⟨attr, rfl⟩ := h.give_misses used (by rwa [outcome_objectGet, there] at got)
      obtain ⟨missing, attr, misses⟩ :=
        moduleGet_misses (h.unhooked.module i rfl) got attr
      cases misses.symm.trans raised
      exact attr
    · rw [standardGet, moduleGet, Run.outcome_recover, got] at raised
      cases raised
    · rw [standardGet, moduleGet, Run.outcome_recover, got] at raised
      cases raised
  · rw [outcome_standardGet run (not_exists.1 module), used] at raised
    exact (h.give_misses used raised).1

end Calm

/-! ### Paths -/

/-- Access by the names of a path, **one after the other**, comes from a value to another one. -/
inductive Walk (run : Runner) : World → Value → List String → World → Value → Prop
  | here {w : World} {v : Value} : Walk run w v [] w v
  | step {w w₁ w₂ : World} {v m u : Value} {name : String} {rest : List String} :
      (get run v name).outcome w = (.ok m, w₁) → Walk run w₁ m rest w₂ u →
      Walk run w v (name :: rest) w₂ u

/-- A walk **breaks off** where the access by one of its names fails. -/
def BreaksOff (run : Runner) (w : World) (v : Value) (path : List String) (w₂ : World) (f : Fault) :
    Prop :=
  ∃ before name after w₁ u, path = before ++ name :: after ∧ Walk run w v before w₁ u ∧
    (get run u name).outcome w₁ = (.error f, w₂)

/-- A path of attributes gives something exactly if it can be **walked** to its end. -/
theorem outcome_path_ok_iff {path : List String} {v u : Value} :
    (path.foldlM (get run) v).outcome w = (.ok u, w₂) ↔ Walk run w v path w₂ u := by
  induction path generalizing w v with
  | nil =>
    constructor
    · intro h
      cases h
      exact .here
    · rintro ⟨⟩
      rfl
  | cons name rest ih =>
    rw [List.foldlM_cons, Run.outcome_bind_ok_iff]
    constructor
    · rintro ⟨m, w₁, found, h⟩
      exact .step found (ih.1 h)
    · rintro (_ | ⟨found, walk⟩)
      exact ⟨_, _, found, ih.2 walk⟩

/-- A path of attributes fails exactly where the walk breaks off. -/
theorem outcome_path_error_iff {path : List String} {v : Value} {f : Fault} :
    (path.foldlM (get run) v).outcome w = (.error f, w₂) ↔ BreaksOff run w v path w₂ f := by
  induction path generalizing w v with
  | nil =>
    constructor
    · intro h
      cases h
    · rintro ⟨before, name, after, _, _, parts, -⟩
      cases before <;> cases parts
  | cons name rest ih =>
    rw [List.foldlM_cons, Run.outcome_bind_error_iff]
    constructor
    · rintro (failed | ⟨m, w₁, found, h⟩)
      · exact ⟨[], name, rest, w, v, rfl, .here, failed⟩
      · obtain ⟨before, name', after, w', u, rfl, walk, failed⟩ := ih.1 h
        exact ⟨name :: before, name', after, w', u, rfl, .step found walk, failed⟩
    · rintro ⟨_ | ⟨first, before⟩, name', after, w', u, parts, walk, failed⟩
      · cases walk
        cases parts
        exact Or.inl failed
      · cases parts
        rcases walk with _ | ⟨found, walk⟩
        exact Or.inr ⟨_, _, found, ih.2 ⟨before, name', after, w', u, rfl, walk, failed⟩⟩

/-! ### References -/

/-- What a text spells is **unique**, and a text that spells nothing is empty or malformed. -/
theorem spells_or_not (text : String) :
    text = "" ∨ Malformed text ∨ ∃! r, Spells text r := by
  cases h : split text with
  | ok r =>
    refine Or.inr (Or.inr ⟨r, split_ok_iff.1 h, fun r' h' => ?_⟩)
    have same := (split_ok_iff.2 h').symm.trans h
    cases same
    rfl
  | error e =>
    rcases split_error_iff.1 h with ⟨empty, -⟩ | ⟨malformed, -⟩
    · exact Or.inl empty
    · exact Or.inr (Or.inl malformed)

/-- A text that spells a reference is **followed** as it. -/
theorem load_of_spells (h : Spells text r) : load run text = r.follow run := by
  rw [load, split_ok_iff.2 h]

/-- A text that is not split fails as splitting it does. -/
theorem load_of_error (h : split text = .error e) :
    (load run text).outcome w = (.error (.raised e), w) := by
  rw [load, h]
  rfl

/-- A reference to a known module is followed by **walking its path**. -/
theorem outcome_follow_of_known (absolute : ¬ Relative r.module) {i : ModuleId}
    (known : w.findModule? r.module = some i) :
    (r.follow run).outcome w = (r.path.foldlM (get run) (.module i)).outcome w :=
  Run.outcome_bind_of_ok ((outcome_moduleNamed_ok_iff absolute).2 ⟨i, known, rfl, rfl⟩)

/-- A text **refers** to what it spells: to the module that is registered under the name before its
last colon, or under the whole text where there is none, and from there by access to the names
behind the colon, from left to right. An empty or malformed text is a bad value, an unknown module
an import error, and what breaks off the walk is an error of an access, which without hooks and
members that raise is a missing attribute. A module that is named by a **leading dot** is not looked
up, and the error is one of type. -/
theorem load_reference (run : Runner) (w : World) (text : String) :
    (text = "" ∨ Malformed text ∨ ∃! r, Spells text r) ∧
    (text = "" ∨ Malformed text →
      ∃ e, e.isA .value = true ∧ (load run text).outcome w = (.error (.raised e), w)) ∧
    ∀ r, Spells text r →
      (Relative r.module →
        (load run text).outcome w = (.error (.raised (.relativeReference r.module)), w)) ∧
      (¬ Relative r.module →
        (w.findModule? r.module = none → ReadablePlaces w →
          ∃ e, e.isA .importing = true ∧ (load run text).outcome w = (.error (.raised e), w)) ∧
        (∀ v w₁, (load run text).outcome w = (.ok v, w₁) ↔
          ∃ i, w.findModule? r.module = some i ∧ Walk run w (.module i) r.path w₁ v) ∧
        ∀ i, w.findModule? r.module = some i →
          (∀ f w₂, (load run text).outcome w = (.error f, w₂) ↔
            BreaksOff run w (.module i) r.path w₂ f) ∧
          ((∀ before name after w₁ u, r.path = before ++ name :: after →
              Walk run w (.module i) before w₁ u → Calm run w₁ u name) →
            ∀ e w₂, (load run text).outcome w = (.error (.raised e), w₂) →
              e.isA .attr = true)) := by
  refine ⟨spells_or_not text, ?nothing, fun r spelled => ?spelled⟩
  case nothing =>
    intro h
    have failed : ∃ e, e.isA .value = true ∧ split text = .error e := by
      rcases h with empty | malformed
      · exact ⟨.emptyReference, rfl, split_error_iff.2 (Or.inl ⟨empty, rfl⟩)⟩
      · exact ⟨.malformedReference text, rfl, split_error_iff.2 (Or.inr ⟨malformed, rfl⟩)⟩
    obtain ⟨e, value, failed⟩ := failed
    exact ⟨e, value, load_of_error failed⟩
  case spelled =>
    rw [load_of_spells spelled]
    refine ⟨fun relative => ?relative, fun absolute => ⟨?unknown, ?given, fun i known => ?known⟩⟩
    case relative => exact Run.outcome_bind_of_error (outcome_moduleNamed_relative relative)
    case unknown =>
      intro unknown places
      obtain ⟨e, importing, failed⟩ := outcome_moduleNamed_unknown absolute places unknown
      exact ⟨e, importing, Run.outcome_bind_of_error failed⟩
    case given =>
      intro v w₁
      rw [follow, Run.outcome_bind_ok_iff]
      constructor
      · rintro ⟨m, w₂, named, walked⟩
        obtain ⟨i, known, rfl, rfl⟩ := (outcome_moduleNamed_ok_iff absolute).1 named
        exact ⟨i, known, outcome_path_ok_iff.1 walked⟩
      · rintro ⟨i, known, walked⟩
        exact ⟨.module i, w, (outcome_moduleNamed_ok_iff absolute).2 ⟨i, known, rfl, rfl⟩,
          outcome_path_ok_iff.2 walked⟩
    case known =>
      have breaks (f : Fault) (w₂ : World) : (r.follow run).outcome w = (.error f, w₂) ↔
          BreaksOff run w (.module i) r.path w₂ f := by
        rw [outcome_follow_of_known absolute known, outcome_path_error_iff]
      refine ⟨breaks, fun calm e w₂ failed => ?_⟩
      obtain ⟨before, name, after, w₁, u, parts, walked, raised⟩ := (breaks _ _).1 failed
      exact (calm before name after w₁ u parts walked).get_misses raised

/-- A world with a module that has one attribute beside its name. -/
def toolsWorld : World :=
  { World.empty with
    modules := #[⟨"builtins", kernelMembers⟩,
      ⟨"tools", [("__name__", .str "tools"), ("area", .int 3)]⟩] }

/-- A world with a module of tools has readable places, and a reference into it is loaded. -/
theorem load_reference_tools :
    ReadablePlaces toolsWorld ∧ Calm (Interpreter.runner 10) toolsWorld (.module 1) "depth" ∧
    (load (Interpreter.runner 10) "tools:area").outcome toolsWorld = (.ok (.int 3), toolsWorld) ∧
    (∃ e, (load (Interpreter.runner 10) "tools:depth").outcome toolsWorld =
      (.error (.raised e), toolsWorld) ∧ e.isA .attr = true) ∧
    ∃ e, e.isA .importing = true ∧ (load (Interpreter.runner 10) "tool").outcome toolsWorld =
      (.error (.raised e), toolsWorld) := by
  have area : Spells "tools:area" ⟨"tools", ["area"]⟩ :=
    .within (show "tools:area" = "tools" ++ ":" ++ "area" from rfl) (by decide) (by decide)
      (by decide) ⟨by decide, by decide, by decide⟩
  have depth : Spells "tools:depth" ⟨"tools", ["depth"]⟩ :=
    .within (show "tools:depth" = "tools" ++ ":" ++ "depth" from rfl) (by decide) (by decide)
      (by decide) ⟨by decide, by decide, by decide⟩
  have tool : Spells "tool" ⟨"tool", []⟩ := .whole (by decide) (by decide)
  have absolute : ¬ Relative "tools" := by decide
  have known : toolsWorld.findModule? "tools" = some 1 := by decide +kernel
  have unknown : toolsWorld.findModule? "tool" = none := by decide +kernel
  have places : ReadablePlaces toolsWorld := by
    intro i m there
    rcases i with _ | _ | i <;> cases there
    · have unlisted : kernelMembers.find? "__path__" = none := rfl
      exact ⟨rfl, fun x told => by cases unlisted.symm.trans told⟩
    · exact ⟨rfl, fun x told => by cases told⟩
  have calm : Calm (Interpreter.runner 10) toolsWorld (.module 1) "depth" :=
    ⟨⟨rfl, rfl, fun i same => by cases same; rfl⟩, fun raw inst owner used => by cases used⟩
  have given := ((load_reference (Interpreter.runner 10) toolsWorld _).2.2 _ area).2 absolute
  have missed := ((load_reference (Interpreter.runner 10) toolsWorld _).2.2 _ depth).2 absolute
  have nowhere := ((load_reference (Interpreter.runner 10) toolsWorld _).2.2 _ tool).2 (by decide)
  obtain ⟨breaks, misses⟩ := missed.2.2 1 known
  have failed : (load (Interpreter.runner 10) "tools:depth").outcome toolsWorld =
      (.error (.raised (.noModuleAttribute (some "tools") "depth")), toolsWorld) :=
    (breaks _ _).2 ⟨[], "depth", [], toolsWorld, .module 1, rfl, .here, rfl⟩
  refine ⟨places, calm, (given.2.1 _ _).2 ⟨1, known, .step rfl .here⟩,
    ⟨_, failed, misses (fun before name after w₁ u parts walked => ?_) _ _ failed⟩,
    nowhere.1 unknown places⟩
  -- A path of one name is asked at its start only.
  obtain ⟨rfl, same⟩ | ⟨-, none⟩ := List.append_eq_singleton_iff.1 parts.symm
  · cases same
    cases walked
    exact calm
  · cases none

/-- A world with a module that tells a number for the places of its parts. -/
def numberedWorld : World :=
  { World.empty with
    modules := #[⟨"builtins", kernelMembers⟩, ⟨"a", [("__path__", .int 3)]⟩] }

/-- A module that is named by a **leading dot**, and a module of which the places are **no list**,
lead to errors of type. -/
theorem load_mistypes :
    (∃ e, Relative ".x" ∧ Spells ".x" ⟨".x", []⟩ ∧
      (load (Interpreter.runner 10) ".x").outcome World.empty = (.error (.raised e), World.empty) ∧
      e.kind = .type ∧ e.isA .value = false) ∧
    ∃ e, Spells "a.b" ⟨"a.b", []⟩ ∧ numberedWorld.findModule? "a.b" = none ∧
      (load (Interpreter.runner 10) "a.b").outcome numberedWorld =
        (.error (.raised e), numberedWorld) ∧ e.kind = .type ∧ e.isA .importing = false := by
  have relative : Relative ".x" := by decide
  have dots : Spells ".x" ⟨".x", []⟩ := .whole (by decide) (by decide)
  have parts : Spells "a.b" ⟨"a.b", []⟩ := .whole (by decide) (by decide)
  have absolute : ¬ Relative "a.b" := by decide
  have names : "a.b".splitOn "." = ["a", "b"] :=
    splitOn_eq_iff.2 ⟨by decide, by decide, by decide⟩
  refine ⟨⟨.relativeReference ".x", relative, dots, ?_, rfl, rfl⟩, .notIterable "int", parts,
    by decide +kernel, ?_, rfl, rfl⟩
  · rw [load_of_spells dots]
    exact Run.outcome_bind_of_error (outcome_moduleNamed_relative relative)
  · rw [load_of_spells parts]
    refine Run.outcome_bind_of_error ?_
    have unknown : numberedWorld.findModule? (dotted ["b", "a"]) = none := by decide +kernel
    have above : (moduleOf (Interpreter.runner 10) ["a"]).outcome numberedWorld =
        (.ok (.module 1), numberedWorld) :=
      outcome_moduleOf_of_known (by decide) (by decide +kernel)
    have told : (get? (Interpreter.runner 10) (.module 1) "__path__").outcome numberedWorld =
        (.ok (some (.int 3)), numberedWorld) := rfl
    rw [moduleNamed_eq absolute, names]
    show (moduleOf (Interpreter.runner 10) ["b", "a"]).outcome numberedWorld = _
    rw [moduleOf, Run.outcome_bind_of_ok (Run.outcome_reading _ _), unknown]
    exact Run.outcome_bind_of_ok above |>.trans (Run.outcome_bind_of_ok told)

end Reference

end OrderedScope
