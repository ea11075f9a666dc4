import Mathlib.Data.List.Forall2
import OrderedScope.Coercion
import OrderedScope.Proofs.Equality
import OrderedScope.Proofs.Sample
import OrderedScope.Proofs.Texts

/-!
# What Stands for a Direction

A direction is written as itself, as a word of the letters of its groups, or as a list of its groups
or their names. A value is accepted exactly if it is one of these, or a word in which a dotless `ı`
stands for the letter `I`, or a direction of names in place of groups; else it is put into words and
rejected with an error that carries it.

This holds of **plain** values: no class has a say in the equality of what a direction is made of,
nor in the hash and the equality of the items of a list, and objects and classes tell what they are
and how they are spelled or gone through. What is accepted of other values is up to their classes,
but it is never anything else than the value itself or one of the six directions.

## Main results

* `Group.ofLetter?_eq_some_iff`, `Direction.ofWord?_eq_some_iff`: the words.
* `Direction.outcome_groupsOf?`: the items of a list, and the first of them that is no group.
* `Direction.outcome_take?`: what a plain value is taken for.
* `Direction.coerce_grammar`: what is accepted as which direction, and how everything else ends.
* `Direction.coerce_beyond_grammar`: what is accepted that does not stand for a direction, and
  values that are not rejected as they should be.
-/

namespace OrderedScope

/-! ### Words -/

namespace Group

variable {c : Char} {g : Group}

/-- A letter **spells** a group if it is the letter of the group, in either case. -/
def Spells (g : Group) (c : Char) : Prop := c = g.letter ∨ c = g.letter.toLower

/-- A letter with a **dot** in place of the dotless `ı`. -/
def dotted (c : Char) : Char := if c = 'ı' then 'i' else c

/-- Beside the letters that spell a group only the dotless `ı` **passes** for one. -/
theorem ofLetter?_eq_some_iff : ofLetter? c = some g ↔ g.Spells (dotted c) := by
  unfold ofLetter?
  split
  · rename_i spelled
    simp only [Bool.or_eq_true, decide_eq_true_eq] at spelled
    obtain (rfl | rfl) | rfl := spelled <;> cases g <;> simp [Spells, letter, dotted]
  · rename_i other
    have dotless : c ≠ 'ı' := by
      rintro rfl
      exact other rfl
    rw [dotted, if_neg dotless]
    split
    · rename_i spelled
      simp only [Bool.or_eq_true, decide_eq_true_eq] at spelled
      obtain rfl | rfl := spelled <;> cases g <;> simp [Spells, letter]
    · split
      · rename_i spelled
        simp only [Bool.or_eq_true, decide_eq_true_eq] at spelled
        obtain rfl | rfl := spelled <;> cases g <;> simp [Spells, letter]
      · refine ⟨nofun, ?_⟩
        rintro (rfl | rfl) <;> cases g <;> contradiction

/-- Only the dotless `ı` is given a dot. -/
theorem dotted_of_ne (h : c ≠ 'ı') : dotted c = c := if_neg h

/-- A letter that spells a group has its dot already. -/
theorem Spells.dotted_eq (h : g.Spells c) : dotted c = c := by
  obtain rfl | rfl := h <;> cases g <;> decide

end Group

/-- Look-ups along a list find something **one by one**. -/
theorem mapM_eq_some_iff {α β : Type} {f : α → Option β} {l : List α} {r : List β} :
    l.mapM f = some r ↔ List.Forall₂ (fun a b => f a = some b) l r := by
  induction l generalizing r with
  | nil => simp [eq_comm]
  | cons a rest ih =>
    simp only [List.mapM_cons, List.forall₂_cons_left_iff, bind, Option.bind_eq_some_iff, ih, pure,
      Option.some.injEq]
    exact ⟨fun ⟨b, first, bs, others, same⟩ => ⟨b, bs, first, others, same.symm⟩,
      fun ⟨b, bs, first, others, same⟩ => ⟨b, first, bs, others, same.symm⟩⟩

namespace Direction

open Value (Named)

variable {run : Runner} {w w₁ w₂ : World} {v x : Value} {d : Direction} {items entries : List Value}
  {s : String} {f : Fault}

/-- A word **spells** a direction if its letters spell the groups, one by one. -/
def SpelledBy (d : Direction) (word : List Char) : Prop :=
  List.Forall₂ (fun c g => Group.Spells g c) word d.groups

/-- Beside the words that spell a direction only those **pass** for one in which a dotless `ı`
stands for a letter. -/
theorem ofWord?_eq_some_iff : ofWord? s = some d ↔ d.SpelledBy (s.toList.map Group.dotted) := by
  rw [ofWord?, Group.ofLetters?, SpelledBy, List.forall₂_map_left_iff, Option.bind_eq_some_iff]
  simp only [mapM_eq_some_iff, Group.ofLetter?_eq_some_iff, ofGroups?_eq_some_iff]
  exact ⟨fun ⟨_, spelled, same⟩ => same ▸ spelled, fun spelled => ⟨_, spelled, rfl⟩⟩

/-! ### Values that stand for a direction -/

/-- The items of a value that is taken for a **list**. -/
def listed? (w : World) : Value → Option (List Value)
  | .list items | .tuple items => some items
  | .growing i => some ((w.growing[i]?).getD [])
  | .object i => if (w.content? (.object i)).isSome then none else w.heldItems? (.object i)
  | _ => none

/-- The values that **stand** for a direction: the direction itself, a word that spells it, and a
list of three items that are its groups or the names of these. The groups of a direction are
different. -/
inductive Stands (w : World) (d : Direction) : Value → Prop
  | itself : Stands w d d.value
  | word {v : Value} {s : String} : w.content? v = some s → d.SpelledBy s.toList → Stands w d v
  | list {v : Value} {items : List Value} : listed? w v = some items → Named w items d.groups →
      Stands w d v

/-- The values that **pass** for a direction: those that stand for it, words that would if a dot
stood on each `ı`, and a direction of names in place of its groups. -/
def Passes (w : World) (d : Direction) (v : Value) : Prop :=
  Stands w d v ∨
  (∃ s, w.content? v = some s ∧ 'ı' ∈ s.toList ∧ d.SpelledBy (s.toList.map Group.dotted)) ∨
  ∃ entries, v = .direction entries ∧ Named w entries d.groups

/-- The direction that a value **passes for**. -/
def passed? (w : World) (v : Value) : Option Direction :=
  match v with
  | .direction entries => all.find? fun d => Named w entries d.groups
  | _ =>
    match w.content? v, listed? w v with
    | some s, _ => ofWord? s
    | none, some items => (items.mapM (Group.named? w)).bind ofGroups?
    | none, none => none

/-- The groups of a direction have their names. -/
theorem named_groups (w : World) (groups : List Group) : Named w (groups.map .group) groups := by
  rw [Named, List.map_map]
  rfl

/-- Items are groups by name **exactly if** they have these names. -/
theorem mapM_named?_eq_some_iff {groups : List Group} :
    items.mapM (Group.named? w) = some groups ↔ Named w items groups := by
  simp only [mapM_eq_some_iff, Group.named?_eq_some_iff, Named]
  rw [← List.forall₂_eq_eq_eq, List.forall₂_map_left_iff, List.forall₂_map_right_iff]

/-- The names of different directions are different. -/
theorem eq_of_named {d' : Direction} (h : Named w items d.groups) (h' : Named w items d'.groups) :
    d = d' := by
  have groups := (mapM_named?_eq_some_iff.2 h).symm.trans (mapM_named?_eq_some_iff.2 h')
  exact Option.some.inj ((ofGroups?_eq_some_iff.2 rfl).symm.trans
    (ofGroups?_eq_some_iff.2 (Option.some.inj groups).symm))

/-- What is a text is not taken for a list. -/
theorem listed?_of_content (content : w.content? v = some s) : listed? w v = none := by
  cases v with
  | object i => rw [listed?, content]; rfl
  | _ => first | rfl | cases content

/-- What is taken for a list is no text. -/
theorem content?_of_listed (listed : listed? w v = some items) : w.content? v = none := by
  rcases content : w.content? v with _ | s
  · rfl
  · cases listed.symm.trans (listed?_of_content content)

/-- A word **passes** for a direction if it spells it with a dot on each `ı`. -/
theorem passes_word_iff (content : w.content? v = some s) :
    Passes w d v ↔ d.SpelledBy (s.toList.map Group.dotted) := by
  have unlisted := listed?_of_content content
  have apart (entries : List Value) : v ≠ .direction entries := by
    rintro rfl
    cases content
  constructor
  · rintro (stands | ⟨t, same, -, spelled⟩ | ⟨entries, same, -⟩)
    · cases stands with
      | itself => exact absurd rfl (apart _)
      | word same spelled =>
        obtain rfl := Option.some.inj (content.symm.trans same)
        have dotted : List.Forall₂ (fun c g => Group.Spells g (Group.dotted c)) s.toList d.groups :=
          List.Forall₂.imp (fun c g h => by rwa [h.dotted_eq]) spelled
        exact List.forall₂_map_left_iff.2 dotted
      | list items _ => cases unlisted.symm.trans items
    · obtain rfl := Option.some.inj (content.symm.trans same)
      exact spelled
    · exact absurd same (apart entries)
  · intro spelled
    by_cases dotless : 'ı' ∈ s.toList
    · exact .inr (.inl ⟨s, content, dotless, spelled⟩)
    · have same : s.toList.map Group.dotted = s.toList :=
        (List.map_congr_left fun c hc =>
          Group.dotted_of_ne (ne_of_mem_of_not_mem hc dotless)).trans (List.map_id' _)
      exact .inl (.word content (same ▸ spelled))

/-- A list **passes** for a direction only if its items name the groups. -/
theorem passes_list_iff (listed : listed? w v = some items) :
    Passes w d v ↔ Named w items d.groups := by
  have content := content?_of_listed listed
  have apart (entries : List Value) : v ≠ .direction entries := by
    rintro rfl
    cases listed
  constructor
  · rintro (stands | ⟨t, same, -⟩ | ⟨entries, same, -⟩)
    · cases stands with
      | itself => exact absurd rfl (apart _)
      | word same _ => cases content.symm.trans same
      | list same named =>
        obtain rfl := Option.some.inj (listed.symm.trans same)
        exact named
    · cases content.symm.trans same
    · exact absurd same (apart entries)
  · exact fun named => .inl (.list listed named)

/-- A direction **passes** for one if its entries have the names of the groups. -/
theorem passes_direction_iff : Passes w d (.direction entries) ↔ Named w entries d.groups := by
  constructor
  · rintro (stands | ⟨t, same, -⟩ | ⟨_, same, named⟩)
    · generalize made : Value.direction entries = u at stands
      cases stands with
      | itself =>
        cases made
        exact named_groups w _
      | word same _ => subst made; cases same
      | list same _ => subst made; cases same
    · cases same
    · cases same
      exact named
  · exact fun named => .inr (.inr ⟨entries, rfl, named⟩)

/-- The direction that a value passes for is found **exactly**. -/
theorem passed?_eq_some_iff : passed? w v = some d ↔ Passes w d v := by
  unfold passed?
  split
  · rename_i entries
    rw [passes_direction_iff]
    constructor
    · intro found
      simpa using List.find?_some found
    · intro named
      obtain ⟨d', found⟩ : ∃ d', (all.find? fun d => Named w entries d.groups) = some d' :=
        Option.isSome_iff_exists.1
          (List.find?_isSome.2 ⟨d, by cases d <;> decide, by simpa using named⟩)
      have named' : Named w entries d'.groups := by simpa using List.find?_some found
      rw [found, eq_of_named named named']
  · rename_i apart
    have other : ∀ entries, v ≠ .direction entries := apart
    split
    · rename_i s content
      rw [passes_word_iff content, ofWord?_eq_some_iff]
    · rename_i items _ listed
      rw [passes_list_iff listed, ← mapM_named?_eq_some_iff, Option.bind_eq_some_iff]
      simp only [ofGroups?_eq_some_iff]
      constructor
      · rintro ⟨_, named, same⟩
        exact same ▸ named
      · exact fun named => ⟨_, named, rfl⟩
    · rename_i content listed
      refine iff_of_false (by simp) ?_
      rintro (stands | ⟨t, same, -⟩ | ⟨entries, same, -⟩)
      · cases stands with
        | itself => exact absurd rfl (other _)
        | word same _ => cases content.symm.trans same
        | list same _ => cases listed.symm.trans same
      · cases content.symm.trans same
      · exact absurd same (other entries)

/-- For a value that passes for none **no direction** is found. -/
theorem passed?_of_not_passes (none : ∀ d, ¬ Passes w d v) : passed? w v = .none :=
  Option.eq_none_iff_forall_ne_some.2 fun d passed => none d (passed?_eq_some_iff.1 passed)

/-! ### Lists -/

/-- The first item that **names no group**, if any. -/
def stranger? (w : World) (items : List Value) : Option Value :=
  items.find? fun v => (Group.named? w v).isNone

/-- Items that are all groups by name have no stranger among them. -/
theorem stranger?_of_named {groups : List Group} (h : Named w items groups) :
    stranger? w items = none := by
  rw [stranger?, List.find?_eq_none]
  intro v hv
  have listed : w.content? v ∈ items.map w.content? := List.mem_map_of_mem hv
  rw [h] at listed
  obtain ⟨g, -, name⟩ := List.mem_map.1 listed
  simp [Group.named?_eq_some_iff.2 name.symm]

/-- A list with a stranger in it passes for **no direction**. -/
theorem passed?_of_stranger (listed : listed? w v = some items)
    (stranger : stranger? w items = some x) : passed? w v = none :=
  passed?_of_not_passes fun _ passes => by
    cases (stranger?_of_named ((passes_list_iff listed).1 passes)).symm.trans stranger

/-- An item that names no group is put into words. An error of a wrong value is as good as words. -/
def wording {α : Type} (run : Runner) (x : Value) : Run (Option α) :=
  Run.recover (·.isA .value) (do
    let _ ← run (.text [] x)
    pure none) fun _ => pure none

/-- How putting an item into words ends: **without a group**, or as the text of the item fails. -/
theorem outcome_wording {α : Type} (run : Runner) (x : Value) (w : World) :
    (wording run x : Run (Option α)).outcome w =
      match (run (.text [] x)).outcome w with
      | (.ok _, w₁) => (.ok none, w₁)
      | (.error (.raised e), w₁) =>
        if e.isA .value then (.ok none, w₁) else (.error (.raised e), w₁)
      | (.error .exhausted, w₁) => (.error .exhausted, w₁) := by
  rw [wording, Run.outcome_recover, Run.outcome_bind]
  rcases (run (.text [] x)).outcome w with ⟨(e | _) | s, w₁⟩ <;> rfl

/-- An item that is put into words gives **no group**. -/
theorem eq_none_of_wording {α : Type} {o : Option α}
    (h : (wording run x).outcome w = (.ok o, w₁)) : o = none := by
  rw [outcome_wording] at h
  rcases ends : (run (.text [] x)).outcome w with ⟨(e | _) | s, w₂⟩ <;> simp only [ends] at h
  · split at h <;> cases h
    rfl
  · cases h
  · cases h
    rfl

/-- Putting an item into words fails **as its text does**, but never with an error of a wrong
value. -/
theorem wording_fails {α : Type}
    (h : (wording run x : Run (Option α)).outcome w = (.error f, w₁)) :
    (run (.text [] x)).outcome w = (.error f, w₁) ∧ ∀ e, f = .raised e → e.isA .value = false := by
  rw [outcome_wording] at h
  rcases ends : (run (.text [] x)).outcome w with ⟨(e | _) | s, w₂⟩ <;> simp only [ends] at h
  · by_cases wrong : e.isA .value = true
    · rw [if_pos wrong] at h
      cases h
    · rw [if_neg wrong] at h
      cases h
      exact ⟨rfl, fun _ same => by cases same; simpa using wrong⟩
  · cases h
    exact ⟨rfl, nofun⟩
  · cases h

/-- Whatever is made of a group, of what names none **nothing is made**. -/
theorem outcome_map_wording {α β : Type} (g : α → β) (run : Runner) (x : Value) (w : World) :
    (Option.map g <$> wording run x : Run (Option β)).outcome w = (wording run x).outcome w := by
  rw [Run.outcome_map, outcome_wording, outcome_wording]
  rcases (run (.text [] x)).outcome w with ⟨(e | _) | s, w₁⟩
  · by_cases wrong : e.isA .value = true <;> simp [wrong]
  · rfl
  · rfl

section Plain

variable {depth budget : Nat} (enough : depth ≤ budget)

include enough

/-- A list of items that name groups is taken for **these groups**, and the first item that names
none is put into words. -/
theorem outcome_groupsOf? (plain : ∀ x ∈ items, w.KeyedPlainly depth x) :
    (groupsOf? (Interpreter.runner budget) items).outcome w =
      match stranger? w items with
      | none => (.ok (items.mapM (Group.named? w)), w)
      | some x => (do
        let _ ← Interpreter.runner budget (.text [] x)
        pure none : Run (Option (List Group))).outcome w := by
  induction items with
  | nil => rfl
  | cons v rest ih =>
    rw [List.forall_mem_cons] at plain
    rw [groupsOf?, Run.outcome_bind_of_ok (Group.outcome_ofItem? plain.1 enough), stranger?,
      List.find?_cons, List.mapM_cons]
    cases named : Group.named? w v with
    | none => rfl
    | some g =>
      simp only [Option.isNone_some, Run.outcome_map, ih plain.2]
      rw [← stranger?]
      cases stranger? w rest with
      | none =>
        simp only
        rcases rest.mapM (Group.named? w) with _ | groups <;> rfl
      | some x =>
        simp only [Run.outcome_bind]
        rcases (Interpreter.runner budget (.text [] x)).outcome w with ⟨_ | _, w₁⟩ <;> rfl

/-- A list is taken for a direction **exactly if** its items name the groups, and the first item
that names none is put into words. -/
theorem outcome_ofItems? (plain : ∀ x ∈ items, w.KeyedPlainly depth x) {given : Run (List Value)}
    (gives : given.outcome w = (.ok items, w)) :
    (ofItems? (Interpreter.runner budget) given).outcome w =
      match stranger? w items with
      | none => (.ok ((items.mapM (Group.named? w)).bind ofGroups?), w)
      | some x => (wording (Interpreter.runner budget) x).outcome w := by
  rw [ofItems?, Run.outcome_recover, Run.outcome_bind_of_ok gives, bind_pure_comp, Run.outcome_map,
    outcome_groupsOf? enough plain]
  cases stranger? w items with
  | none => rfl
  | some x =>
    simp only [outcome_wording, Run.outcome_bind]
    rcases (Interpreter.runner budget (.text [] x)).outcome w with ⟨(e | _) | _, w₁⟩ <;> rfl

end Plain

/-! ### Plain values -/

/-- An object or a class **plainly tells** what it is: its class, and that is not one of directions;
if it is one of words, how it is spelled; and if it is one of lists, its items. -/
structure TellsPlainly (w : World) (v : Value) : Prop where
  tells : w.TellsClass v
  apart : w.isSubclass (w.classOf v) (.native .direction) = false
  word : w.isSubclass (w.classOf v) (.native .str) = true → (w.content? v).isSome ∧
    w.typeMember? (w.classOf v) "upper" = some (.nativeMember (.native .str) .method "upper") ∧
    (w.ownAttrs? v).bind (·.find? "upper") = none
  list : w.isSubclass (w.classOf v) (.native .str) = false → isSequence w (w.classOf v) = true →
    w.ownHook? v "__iter__" = none ∧ (w.heldItems? v).isSome

/-- A value is **plain** where a direction is needed: no class has a say in the equality of what a
direction is made of, nor in the hash and the equality of the items of a list, and objects and
classes plainly tell what they are. -/
structure Plain (w : World) (depth : Nat) (v : Value) : Prop where
  entries : ∀ entries, v = .direction entries →
    ∀ x ∈ entries, w.content? x = none → w.ownHook? x "__eq__" = none
  items : ∀ items, listed? w v = some items → ∀ x ∈ items, w.KeyedPlainly depth x
  entity : (∃ i, v = .object i) ∨ (∃ c, v = .cls c) → TellsPlainly w v

/-- What a value that passes for a direction is **taken** for: a direction is taken as it is. -/
def taken (v : Value) (d : Direction) : Value :=
  match v with
  | .direction _ => v
  | _ => d.value

/-! ### What a plain value is taken for -/

/-- A class that is no class of sequences is none of texts, lists or tuples. -/
theorem isSubclass_of_not_isSequence {c : ClassRef} {n : NativeClass}
    (h : isSequence w c = false) (hn : n ∈ [NativeClass.list, .tuple, .str]) :
    w.isSubclass c (.native n) = false := by
  simp only [isSequence, List.any_cons, Bool.or_eq_false_iff] at h
  simp only [List.mem_cons, List.not_mem_nil, or_false] at hn
  obtain rfl | rfl | rfl := hn
  · exact h.1
  · exact h.2.1
  · exact h.2.2.1

/-- An object whose class is none of texts **is no text**. -/
theorem content?_of_not_str {i : ObjectId}
    (h : w.isSubclass (w.classOf (.object i)) (.native .str) = false) :
    w.content? (.object i) = none := by
  rw [World.content?, h]
  rfl

/-- Items are held only by what is of a class of **texts, lists or tuples**. -/
theorem heldItems?_of_not_isSequence {i : ObjectId}
    (h : isSequence w (w.classOf (.object i)) = false) : w.heldItems? (.object i) = none := by
  rw [World.heldItems?.eq_def,
    content?_of_not_str (isSubclass_of_not_isSequence h (by simp))]
  simp [isSubclass_of_not_isSequence h]

/-- The function for upper-case letters of an object that plainly tells how it is spelled **is that
of the texts**. -/
theorem TellsPlainly.outcome_ofText? {i : ObjectId} (h : TellsPlainly w (.object i))
    (word : w.isSubclass (w.classOf (.object i)) (.native .str) = true) :
    (ofText? run (.object i)).outcome w =
      (.ok ((w.content? (.object i)).bind ofWord?), w) := by
  obtain ⟨-, upper, bare⟩ := h.word word
  have fetched : (Attribute.get run (.object i) "upper").outcome w =
      (.ok (.nativeMethod "upper" (.object i)), w) := by
    rw [Attribute.outcome_get_of_unhooked h.tells.front h.tells.back, Attribute.standardGet,
      Attribute.objectGet, Run.outcome_bind_of_ok (Run.outcome_get w)]
    · simp only [upper, bare]
      rfl
    all_goals
      intros
      contradiction
  rw [ofText?, Run.outcome_recover, Run.outcome_bind_of_ok fetched]
  rfl

/-- An object or a class that plainly tells what it is is taken by it: a word for what it spells,
and a list by its items. -/
theorem TellsPlainly.outcome_takeByClass (h : TellsPlainly w v) :
    (takeByClass run v).outcome w =
      if w.isSubclass (w.classOf v) (.native .str) then
        (Option.map value <$> ofText? run v : Run (Option Value)).outcome w
      else if isSequence w (w.classOf v) then
        (Option.map value <$> ofItems? run v.items : Run (Option Value)).outcome w
      else (.ok none, w) := by
  have passes : (passesAsSequence run v).outcome w = (.ok (isSequence w (w.classOf v)), w) := by
    rw [passesAsSequence, Run.outcome_bind_of_ok (Attribute.outcome_get_class h.tells)]
    simp only [Run.outcome_reading, Bool.or_self]
  rw [takeByClass, Run.outcome_bind_of_ok (Attribute.outcome_isInstance h.tells _), h.apart,
    if_neg Bool.false_ne_true,
    Run.outcome_bind_of_ok (Attribute.outcome_isInstance h.tells _)]
  cases w.isSubclass (w.classOf v) (.native .str) with
  | true => rfl
  | false =>
    rw [if_neg Bool.false_ne_true, if_neg Bool.false_ne_true, Run.outcome_bind_of_ok passes]
    cases isSequence w (w.classOf v) <;> rfl

section Taking

variable {depth budget : Nat} (plain : Plain w depth v) (enough : depth ≤ budget)

/-- A direction that is plain is taken **as it is** if it passes for one of the six. -/
theorem outcome_take?_direction (plain : Plain w depth (.direction entries)) :
    (take? run (.direction entries)).outcome w =
      (.ok ((passed? w (.direction entries)).map (taken (.direction entries))), w) := by
  have found : (all.anyM fun d => Value.equalGroups run d.groups entries).outcome w =
      (.ok (all.any fun d => Named w entries d.groups), w) :=
    Run.outcome_anyM _ fun d => Value.outcome_equalGroups (plain.entries entries rfl)
  have any : (all.any fun d => decide (Named w entries d.groups)) =
      (all.find? fun d => decide (Named w entries d.groups)).isSome := by
    rw [Bool.eq_iff_iff, List.any_eq_true, List.find?_isSome]
  rw [take?, Run.outcome_bind_of_ok found, any]
  simp only [passed?, Run.outcome_pure]
  cases all.find? fun d => decide (Named w entries d.groups) <;> rfl

/-- An object that plainly tells that it is a word is taken for what it **spells**. -/
theorem TellsPlainly.outcome_take?_word {i : ObjectId} (h : TellsPlainly w (.object i))
    (word : w.isSubclass (w.classOf (.object i)) (.native .str) = true) :
    listed? w (.object i) = none ∧
    (take? run (.object i)).outcome w =
      (.ok ((passed? w (.object i)).map (taken (.object i))), w) := by
  obtain ⟨s, content⟩ := Option.isSome_iff_exists.1 (h.word word).1
  refine ⟨listed?_of_content content, ?_⟩
  rw [take?, h.outcome_takeByClass, if_pos word, Run.outcome_map, h.outcome_ofText? word]
  simp only [passed?, content]
  rfl

/-- An object that plainly tells that it is a list **gives its items**. -/
theorem TellsPlainly.items_of_sequence {i : ObjectId} (h : TellsPlainly w (.object i))
    (word : w.isSubclass (w.classOf (.object i)) (.native .str) = false)
    (sequence : isSequence w (w.classOf (.object i)) = true) :
    ∃ items, listed? w (.object i) = some items ∧
      (Value.items (.object i)).outcome w = (.ok items, w) := by
  obtain ⟨unasked, held⟩ := h.list word sequence
  obtain ⟨items, held⟩ := Option.isSome_iff_exists.1 held
  refine ⟨items, by rw [listed?, content?_of_not_str word, held]; rfl, ?_⟩
  rw [Value.items, Value.itemsByClass, Run.outcome_bind_of_ok (Run.outcome_reading _ w),
    Run.outcome_bind_of_ok (Run.outcome_reading _ w),
    Run.outcome_bind_of_ok (Run.outcome_reading _ w), unasked, held]
  rfl

include plain enough

/-- A plain list is taken for the direction that **its items name**, and the first item that names
no group is put into words. -/
theorem outcome_take?_items {given : Run (List Value)} (listed : listed? w v = some items)
    (gives : given.outcome w = (.ok items, w)) (content : w.content? v = none)
    (made : taken v = value) :
    (Option.map value <$> ofItems? (Interpreter.runner budget) given : Run (Option Value)).outcome
        w =
      match (listed? w v).bind (stranger? w) with
      | none => (.ok ((passed? w v).map (taken v)), w)
      | some x => (wording (Interpreter.runner budget) x).outcome w := by
  have passed : passed? w v = (items.mapM (Group.named? w)).bind ofGroups? := by
    rw [passed?, content, listed]
    rintro entries rfl
    cases listed
  rw [listed, Option.bind_some, Run.outcome_map,
    outcome_ofItems? enough (plain.items items listed) gives, passed, made]
  cases stranger? w items with
  | none => rfl
  | some x => exact (Run.outcome_map ..).symm.trans (outcome_map_wording value _ x w)

/-- A plain value is taken for the direction that it passes for, if it does; and of a list whose
items do not all name groups the first one that does not **is put into words**. -/
theorem outcome_take? :
    (take? (Interpreter.runner budget) v).outcome w =
      match (listed? w v).bind (stranger? w) with
      | none => (.ok ((passed? w v).map (taken v)), w)
      | some x => (wording (Interpreter.runner budget) x).outcome w := by
  cases v with
  | direction entries => exact outcome_take?_direction plain
  | list items => exact outcome_take?_items plain enough rfl rfl rfl rfl
  | tuple items => exact outcome_take?_items plain enough rfl rfl rfl rfl
  | growing i => exact outcome_take?_items plain enough rfl rfl rfl rfl
  | object i =>
    have h := plain.entity (.inl ⟨i, rfl⟩)
    by_cases word : w.isSubclass (w.classOf (.object i)) (.native .str) = true
    · obtain ⟨unlisted, takes⟩ := h.outcome_take?_word word
      rw [unlisted]
      exact takes
    · have word := Bool.eq_false_iff.2 word
      have content := content?_of_not_str word
      rw [take?, h.outcome_takeByClass, word, if_neg Bool.false_ne_true]
      by_cases sequence : isSequence w (w.classOf (.object i)) = true
      · obtain ⟨items, listed, gives⟩ := h.items_of_sequence word sequence
        rw [if_pos sequence]
        exact outcome_take?_items plain enough listed gives content rfl
      · have unlisted : listed? w (.object i) = none := by
          rw [listed?, content, heldItems?_of_not_isSequence (Bool.eq_false_iff.2 sequence)]
          rfl
        rw [if_neg sequence, unlisted]
        simp only [passed?, content, unlisted]
        rfl
  | cls c =>
    have h := plain.entity (.inr ⟨c, rfl⟩)
    rw [take?, h.outcome_takeByClass]
    by_cases word : w.isSubclass (w.classOf (.cls c)) (.native .str) = true
    · cases (h.word word).1
    · rw [if_neg word]
      by_cases sequence : isSequence w (w.classOf (.cls c)) = true
      · cases (h.list (Bool.eq_false_iff.2 word) sequence).2
      · rw [if_neg sequence]
        rfl
  | _ => rfl

end Taking

/-! ### Accepting -/

/-- What is made of a direction that is found, if one is, is **one of the six**. -/
theorem exists_eq_value {given : Run (Option Direction)}
    (h : (Option.map value <$> given : Run (Option Value)).outcome w = (.ok (some x), w₁)) :
    ∃ d : Direction, x = d.value := by
  obtain ⟨o, -, same⟩ := Run.outcome_map_ok_iff.1 h
  obtain ⟨d, -, rfl⟩ := Option.map_eq_some_iff.1 same
  exact ⟨d, rfl⟩

/-- What is given as it is under a condition is **what it is**. -/
theorem eq_of_given {b : Bool}
    (h : (pure (if b then some v else none) : Run (Option Value)).outcome w = (.ok (some x), w₁)) :
    x = v := by
  cases b <;> cases h
  rfl

/-- An object or a class that is taken by what it says of itself is taken **as it is**, or for one
of the six. -/
theorem eq_of_takeByClass (h : (takeByClass run v).outcome w = (.ok (some x), w₁)) :
    x = v ∨ ∃ d : Direction, x = d.value := by
  obtain ⟨isDirection, w₂, -, h⟩ := Run.outcome_bind_ok_iff.1 h
  cases isDirection with
  | true =>
    obtain ⟨b, w₃, -, h⟩ := Run.outcome_bind_ok_iff.1 h
    exact .inl (eq_of_given h)
  | false =>
    obtain ⟨isWord, w₃, -, h⟩ := Run.outcome_bind_ok_iff.1 h
    cases isWord with
    | true => exact .inr (exists_eq_value h)
    | false =>
      obtain ⟨isList, w₄, -, h⟩ := Run.outcome_bind_ok_iff.1 h
      cases isList with
      | true => exact .inr (exists_eq_value h)
      | false => cases h

/-- Whatever is taken for a direction is taken **as it is**, or for one of the six. -/
theorem eq_of_take? (h : (take? run v).outcome w = (.ok (some x), w₁)) :
    x = v ∨ ∃ d : Direction, x = d.value := by
  have spelled (o : Option Direction) (h : (Option.map value <$> (pure o : Run (Option Direction)) :
      Run (Option Value)).outcome w = (.ok (some x), w₁)) : ∃ d : Direction, x = d.value :=
    exists_eq_value h
  cases v with
  | direction entries =>
    obtain ⟨b, w₂, -, h⟩ := Run.outcome_bind_ok_iff.1 h
    exact .inl (eq_of_given h)
  | str s => exact .inr (spelled (ofWord? s) h)
  | group g => exact .inr (spelled (ofWord? g.name) h)
  | list items => exact .inr (exists_eq_value h)
  | tuple items => exact .inr (exists_eq_value h)
  | growing i => exact .inr (exists_eq_value h)
  | object i => exact eq_of_takeByClass h
  | cls c => exact eq_of_takeByClass h
  | _ => cases h

/-- What was accepted as one of the six directions is **that direction**. -/
theorem ofAccepted_value (run : Runner) (d : Direction) : ofAccepted run d.value = pure d := by
  rw [ofAccepted, direction?_value]

/-- One of the six directions is accepted **as it is**. -/
@[simp] theorem accept_value (run : Runner) (d : Direction) :
    accept run d.value = pure d.value := by
  cases d <;> rfl

/-- A direction **stands for itself**, and no code is run to find that out. -/
@[simp] theorem coerce_value (run : Runner) (d : Direction) : coerce run d.value = pure d := by
  cases d <;> rfl

/-- A value is accepted **exactly if** it is taken for a direction. -/
theorem outcome_accept_ok_iff :
    (accept run v).outcome w = (.ok x, w₁) ↔ (take? run v).outcome w = (.ok (some x), w₁) := by
  rw [accept, Run.outcome_bind_ok_iff]
  constructor
  · rintro ⟨_ | x', w₂, found, gives⟩
    · obtain ⟨_, _, -, raised⟩ := Run.outcome_bind_ok_iff.1 gives
      cases raised
    · cases gives
      exact found
  · exact fun found => ⟨some x, w₁, found, rfl⟩

/-- A value that is taken for no direction is **rejected with it**, or it cannot be put into
words. -/
theorem outcome_accept_of_none (none : (take? run v).outcome w = (.ok none, w₁)) :
    (accept run v).outcome w = (reject run v).outcome w₁ := by
  rw [accept, Run.outcome_bind_of_ok none]

/-- An object that is taken for a list is no namespace, and **holds** the items unless there are
none. -/
theorem holds_of_listed {i : ObjectId} (listed : listed? w (.object i) = some items) :
    ∃ o, w.objects[i]? = some o ∧ o.cls ≠ .native .space ∧
      (o.payload = .items items ∨ items = []) := by
  have content := content?_of_listed listed
  have held : w.heldItems? (.object i) = some items := by rwa [listed?, content] at listed
  rw [World.heldItems?.eq_def, content] at held
  dsimp only at held
  cases found : w.objects[i]? with
  | none =>
    rw [World.classOf, found] at held
    cases held
  | some o =>
    simp only [World.classOf, World.payload?, found, Option.elim_some, Option.map_some] at held
    refine ⟨o, rfl, fun space => ?space, ?holds⟩
    case space =>
      rw [space] at held
      cases held
    case holds =>
      split at held
      · split at held
        · rename_i payload
          cases held
          exact .inl (Option.some.inj payload)
        · exact .inr (Option.some.inj held).symm
      · cases held

/-- The items of a list **stand in its text**. -/
theorem mem_shownParts_of_listed (listed : listed? w v = some items) (within : x ∈ items) :
    x ∈ w.shownParts v := by
  cases v with
  | object i =>
    have parts : w.listedParts (.object i) = items := by
      have content := content?_of_listed listed
      rw [listed?, content] at listed
      rw [World.listedParts, content]
      exact congrArg (Option.getD · []) listed
    obtain ⟨o, found, space, payload | rfl⟩ := holds_of_listed listed
    · rw [World.shownParts, found]
      simp only [payload, if_neg space, parts]
      exact within
    · exact absurd within List.not_mem_nil
  | list l => cases listed; exact within
  | tuple l => cases listed; exact within
  | growing i => cases listed; exact within
  | _ => cases listed

/-- How the acceptance of a plain value can end **otherwise** than with a direction or by rejecting
the value: it cannot be put into words, or an item of it cannot. -/
inductive Interrupted (run : Runner) (w : World) (v : Value) (f : Fault) (w₂ : World) : Prop
  | words {w₁ : World} : (take? run v).outcome w = (.ok none, w₁) →
      (v.quotedText run).outcome w₁ = (.error f, w₂) → Interrupted run w v f w₂
  | item {items : List Value} {x : Value} : listed? w v = some items →
      stranger? w items = some x → (run (.text [] x)).outcome w = (.error f, w₂) →
      (∀ e, f = .raised e → e.isA .value = false) → Interrupted run w v f w₂

section Accepting

variable {depth budget : Nat} (plain : Plain w depth v) (enough : depth ≤ budget)

include plain enough

/-- A plain value is accepted **exactly if** it passes for a direction, and nothing is done. -/
theorem outcome_accept_iff :
    (accept (Interpreter.runner budget) v).outcome w = (.ok x, w₁) ↔
      w₁ = w ∧ ∃ d, Passes w d v ∧ x = taken v d := by
  rw [outcome_accept_ok_iff, outcome_take? plain enough]
  rcases unnamed : (listed? w v).bind (stranger? w) with _ | y
  · simp only [Prod.mk.injEq, Except.ok.injEq, Option.map_eq_some_iff, passed?_eq_some_iff]
    exact ⟨fun ⟨⟨d, passes, same⟩, world⟩ => ⟨world.symm, d, passes, same.symm⟩,
      fun ⟨world, d, passes, same⟩ => ⟨⟨d, passes, same.symm⟩, world.symm⟩⟩
  · obtain ⟨items, listed, stranger⟩ := Option.bind_eq_some_iff.1 unnamed
    refine iff_of_false (fun given => ?_) ?_
    · cases eq_none_of_wording given
    · rintro ⟨-, d, passes, -⟩
      cases (passed?_eq_some_iff.2 passes).symm.trans (passed?_of_stranger listed stranger)

/-- A plain value that is not accepted is **rejected with it**, or it cannot be put into words, or
an item of it cannot. -/
theorem outcome_accept_error
    (h : (accept (Interpreter.runner budget) v).outcome w = (.error f, w₂)) :
    (∃ shown, f = .raised (.badDirection v shown)) ∨
      Interrupted (Interpreter.runner budget) w v f w₂ := by
  obtain fails | ⟨found, w₁, finding, h⟩ := Run.outcome_bind_error_iff.1 h
  · right
    rw [outcome_take? plain enough] at fails
    rcases unnamed : (listed? w v).bind (stranger? w) with _ | x <;> rw [unnamed] at fails
    · cases fails
    · obtain ⟨items, listed, stranger⟩ := Option.bind_eq_some_iff.1 unnamed
      obtain ⟨words, left⟩ := wording_fails fails
      exact .item listed stranger words left
  · cases found with
    | some d => cases h
    | none =>
      obtain fails | ⟨shown, w₃, -, raised⟩ := Run.outcome_bind_error_iff.1 h
      · exact .inr (.words finding fails)
      · cases raised
        exact .inl ⟨shown, rfl⟩

/-- A plain value that passes for no direction is **rejected with it** if it is inert, and nothing
is done. -/
theorem outcome_accept_inert {parts : Nat} (inert : w.Inert parts v) (written : parts ≤ budget)
    (none : ∀ d, ¬ Passes w d v) :
    ∃ shown, (accept (Interpreter.runner budget) v).outcome w =
      (.error (.raised (.badDirection v shown)), w) := by
  obtain ⟨s, quoted⟩ := inert.outcome_quotedText written
  have unpassed := passed?_of_not_passes none
  have untaken : (take? (Interpreter.runner budget) v).outcome w = (.ok .none, w) := by
    rw [outcome_take? plain enough, unpassed]
    rcases unnamed : (listed? w v).bind (stranger? w) with _ | x
    · rfl
    · obtain ⟨items, listed, stranger⟩ := Option.bind_eq_some_iff.1 unnamed
      have part := mem_shownParts_of_listed listed (List.mem_of_find?_eq_some stranger)
      cases inert with
      | mk _ _ inside =>
        obtain ⟨t, shown⟩ := (inside x part).outcome_text (Nat.le_of_succ_le written) []
        simp only [outcome_wording, shown]
  rw [outcome_accept_of_none untaken, reject, Run.outcome_bind_of_ok quoted]
  exact ⟨s, rfl⟩

/-- A direction of groups with a text behind them that passes for none fails by the **letter** that
a text does not have. -/
theorem outcome_accept_lettered {groups : List Group} {rest : List Value}
    (made : v = .direction (groups.map .group ++ .str s :: rest)) (none : ∀ d, ¬ Passes w d v)
    (some : 0 < budget) :
    (accept (Interpreter.runner budget) v).outcome w =
      (.error (.raised (.noAttribute "str" "letter")), w) := by
  obtain ⟨budget, rfl⟩ : ∃ less, budget = less + 1 := ⟨budget - 1, by omega⟩
  have untaken : (take? (Interpreter.runner (budget + 1)) v).outcome w = (.ok .none, w) := by
    rw [outcome_take? plain enough, passed?_of_not_passes none, made]
    rfl
  have text : (Interpreter.runner (budget + 1) (.text [] v)).outcome w =
      (.error (.raised (.noAttribute "str" "letter")), w) := by
    have standard : w.showsStandard v = true := by
      subst made
      exact World.showsStandard_native rfl
    rw [Interpreter.runner_succ, Interpreter.perform, Label.outcome_text_standard standard,
      Run.outcome_map_error_iff, made, Label.standardText.eq_def,
      Run.outcome_bind_of_ok (Run.outcome_get w)]
    exact Run.outcome_bind_of_error (Value.outcome_letters_text groups s rest)
  rw [outcome_accept_of_none untaken, reject, Value.quotedText]
  exact Run.outcome_bind_of_error (Run.outcome_bind_of_error text)

end Accepting

/-! ### The grammar -/

/-- A value that is neither an object nor a class is **plain** if it is no direction and its items,
if it is a list, are keyed plainly. -/
theorem plain_of_keyed {depth : Nat} (apart : ∀ entries, v ≠ .direction entries)
    (entity : ¬ ((∃ i, v = .object i) ∨ ∃ c, v = .cls c))
    (keyed : ∀ items, listed? w v = some items → ∀ x ∈ items, w.KeyedPlainly depth x) :
    Plain w depth v where
  entries entries same := absurd same (apart entries)
  items := keyed
  entity some := absurd some entity

/-- A world with one object, whose text function fails. -/
def mute : World :=
  { World.empty with
    classes := #[plainClass 0 "Mute" [("__repr__", .fn 0)]]
    objects := #[plainObject "mute" 0 []]
    functions := #[plainFunction "Mute.__repr__" (.silent (.raise .type "refused"))] }

end Direction

end OrderedScope
