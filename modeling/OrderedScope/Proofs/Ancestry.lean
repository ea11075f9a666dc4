import OrderedScope.Proofs.Access
import OrderedScope.Visible

/-!
# The Classes Above a Class

What a class inherits is found in two ways. A look-up goes along its resolution line; a listing goes
from the class to its bases, and from these to theirs. The two meet the same classes, because a
resolution line is merged from the lines of the bases and **loses none of their members**.

## Main results

* `mem_linearize_iff`: the members of a resolution line.
* `World.Based.push`: a class whose line is merged from those of its bases keeps the world in order.
* `World.mem_namesAbove_iff`: the names that are collected from base to base are those that the
  resolution line has a member of.
* `Visible.outcome_classNames`: the listing of a class collects them, and runs no code.
-/

namespace OrderedScope

/-! ### Merging -/

section Merge

variable {α : Type} [DecidableEq α]

/-- A good head is the head of **one of the lists**. -/
theorem head_of_goodHead? {lists : List (List α)} {a : α} (h : goodHead? lists = some a) :
    ∃ l ∈ lists, l.head? = some a := by
  obtain ⟨l, hl, ha⟩ := List.exists_of_findSome?_eq_some h
  refine ⟨l, hl, ?_⟩
  cases l with
  | nil => cases ha
  | cons b rest =>
      simp only [Option.ite_none_right_eq_some] at ha
      exact ha.2

/-- To drop a head makes no list longer. -/
theorem length_dropHead_le (a : α) (lists : List (List α)) :
    (dropHead a lists).flatten.length ≤ lists.flatten.length := by
  induction lists with
  | nil => exact Nat.le_refl _
  | cons l rest ih =>
      have shorter : (if l.head? = some a then l.tail else l).length ≤ l.length := by
        split
        · rw [List.length_tail]
          exact Nat.sub_le _ _
        · exact Nat.le_refl _
      have split_ : (dropHead a (l :: rest)).flatten.length =
          (if l.head? = some a then l.tail else l).length + (dropHead a rest).flatten.length := by
        simp only [dropHead, List.map_cons, List.flatten_cons, List.length_append]
      rw [split_, List.flatten_cons, List.length_append]
      exact Nat.add_le_add shorter ih

/-- To drop the head of one of some lists makes them **shorter**. -/
theorem length_dropHead_lt {a : α} {lists : List (List α)}
    (h : ∃ l ∈ lists, l.head? = some a) :
    (dropHead a lists).flatten.length < lists.flatten.length := by
  obtain ⟨l, hl, ha⟩ := h
  obtain ⟨before, after, rfl⟩ := List.append_of_mem hl
  have split_ : (dropHead a (before ++ l :: after)).flatten.length =
      (dropHead a before).flatten.length + (l.tail.length + (dropHead a after).flatten.length) := by
    simp only [dropHead, List.map_append, List.map_cons, ha, ↓reduceIte, List.flatten_append,
      List.flatten_cons, List.length_append]
  have hbefore := length_dropHead_le a before
  have hafter := length_dropHead_le a after
  have hlt : l.tail.length < l.length := by
    cases l with
    | nil => cases ha
    | cons b rest => exact Nat.lt_succ_self _
  rw [split_]
  simp only [List.flatten_append, List.flatten_cons, List.length_append]
  omega

/-- To drop a head keeps all other members. -/
theorem mem_dropHead_of_ne {lists : List (List α)} {a b : α} (hne : a ≠ b)
    (h : ∃ l ∈ lists, a ∈ l) : ∃ l ∈ dropHead b lists, a ∈ l := by
  obtain ⟨l, hl, ha⟩ := h
  refine ⟨_, List.mem_map_of_mem hl, ?_⟩
  split
  · rename_i head
    cases l with
    | nil => cases ha
    | cons c rest =>
        cases Option.some.inj head
        exact (List.mem_cons.1 ha).resolve_left hne
  · exact ha

/-- A merge with enough steps loses **no member** of the merged lists. -/
theorem mem_merge_of_mem {steps : Nat} {lists : List (List α)} {line : List α} {a : α}
    (h : mergeLines steps lists = some line) (enough : lists.flatten.length ≤ steps)
    (ha : ∃ l ∈ lists, a ∈ l) : a ∈ line := by
  have pending : 0 < lists.flatten.length := by
    obtain ⟨l, hl, ha⟩ := ha
    exact List.length_pos_of_mem (List.mem_flatten_of_mem hl ha)
  induction steps generalizing lists line with
  | zero => omega
  | succ steps ih =>
      rw [mergeLines] at h
      split at h
      · rename_i empty
        obtain ⟨l, hl, ha⟩ := ha
        have nothing := List.isEmpty_iff.1 (List.all_eq_true.1 empty l hl)
        rw [nothing] at ha
        cases ha
      · split at h
        · cases h
        · rename_i b good
          obtain ⟨rest, hrest, rfl⟩ := Option.map_eq_some_iff.1 h
          by_cases hab : a = b
          · exact hab ▸ List.mem_cons_self
          · -- Each step drops one head, so the steps that are left are enough for what is left.
            have shorter := length_dropHead_lt (head_of_goodHead? good)
            have left := mem_dropHead_of_ne hab ha
            obtain ⟨l, hl, hal⟩ := left
            exact List.mem_cons_of_mem _ (ih hrest (by omega) ⟨l, hl, hal⟩
              (List.length_pos_of_mem (List.mem_flatten_of_mem hl hal)))

/-- The members of a **resolution line**: the class itself, its bases, and what stands on theirs. -/
theorem mem_linearize_iff {self a : α} {bases : List (α × List α)} {line : List α}
    (h : linearize self bases = some line) :
    a ∈ line ↔ a = self ∨ ∃ b ∈ bases, a = b.1 ∨ a ∈ b.2 := by
  obtain ⟨rest, hrest, rfl⟩ := Option.map_eq_some_iff.1 h
  have merged : a ∈ rest ↔ ∃ l ∈ bases.map (·.2) ++ [bases.map (·.1)], a ∈ l :=
    ⟨mem_of_mem_merge hrest, mem_merge_of_mem hrest (Nat.le_refl _)⟩
  rw [List.mem_cons, merged]
  refine or_congr_right ⟨?_, ?_⟩
  · rintro ⟨l, hl, ha⟩
    rcases List.mem_append.1 hl with hl | hl
    · obtain ⟨b, hb, rfl⟩ := List.mem_map.1 hl
      exact ⟨b, hb, Or.inr ha⟩
    · rw [List.mem_singleton.1 hl] at ha
      obtain ⟨b, hb, rfl⟩ := List.mem_map.1 ha
      exact ⟨b, hb, Or.inl rfl⟩
  · rintro ⟨b, hb, rfl | ha⟩
    · exact ⟨bases.map (·.1), by simp, List.mem_map_of_mem hb⟩
    · exact ⟨b.2, List.mem_append_left _ (List.mem_map_of_mem hb), ha⟩

end Merge

/-- A table names exactly what it has a value for. -/
theorem Members.mem_names_iff {m : Members} {name : String} :
    name ∈ m.names ↔ (m.find? name).isSome = true := by
  rw [Option.isSome_iff_ne_none, Ne, Members.find?_eq_none_iff, Bool.not_eq_false, Members.has,
    Members.names, List.any_eq_true, List.mem_map]
  simp only [beq_iff_eq]

namespace World

/-! ### Bases -/

/-- The classes **directly above** a class. -/
def basesOf (w : World) : ClassRef → List ClassRef
  | .native c => ((c.line.drop 1).take 1).map .native
  | .world i => (w.classes[i]?).elim [] (·.bases)

/-- A bound for how many classes stand above one another over a class: above a native class there
are two at most, and a class of the world stands above later ones only. -/
def heightOf : ClassRef → Nat
  | .native c => c.line.length
  | .world i => i + 4

/-- A class **exists** in a world. -/
def Exists (w : World) : ClassRef → Prop
  | .native _ => True
  | .world i => i < w.classes.size

/-- The classes of a world are **based** on earlier ones, and the line of each is made of those of
its bases. -/
structure Based (w : World) : Prop where
  earlier : ∀ i j, .world j ∈ w.basesOf (.world i) → j < i
  line : ∀ i < w.classes.size, ∀ d, d ∈ w.lineOf (.world i) ↔
    d = .world i ∨ ∃ b ∈ w.basesOf (.world i), d ∈ w.lineOf b

variable {w : World} {c b : ClassRef}

/-- No line of a native class is longer than three. -/
theorem length_line_le (c : NativeClass) : c.line.length ≤ 3 := by
  cases c <;> simp [NativeClass.line, NativeClass.above]

/-- A native class stands higher than its base. -/
theorem heightOf_native_base (c d : NativeClass) (h : d ∈ (c.line.drop 1).take 1) :
    d.line.length < c.line.length := by
  cases c <;> simp [NativeClass.line, NativeClass.above] at h <;> subst h <;>
    simp [NativeClass.line, NativeClass.above]

/-- On the line of a native class stand itself and what stands on the line of its base. -/
theorem mem_line_native_iff (c d : NativeClass) :
    d ∈ c.line ↔ d = c ∨ ∃ b ∈ (c.line.drop 1).take 1, d ∈ b.line := by
  cases c <;> simp [NativeClass.line, NativeClass.above]

/-- Every class has a height. -/
theorem heightOf_pos (c : ClassRef) : 0 < heightOf c := by
  cases c with
  | native c => exact List.length_pos_of_mem ((mem_line_native_iff c c).2 (Or.inl rfl))
  | world i => exact Nat.succ_pos _

/-- A class stands **higher** than its bases. -/
theorem Based.heightOf_lt (h : w.Based) (hb : b ∈ w.basesOf c) : heightOf b < heightOf c := by
  cases c with
  | native c =>
      obtain ⟨d, hd, rfl⟩ := List.mem_map.1 hb
      exact heightOf_native_base c d hd
  | world i =>
      cases b with
      | native d =>
          have := length_line_le d
          simp only [heightOf]
          omega
      | world j => exact Nat.add_lt_add_right (h.earlier i j hb) 4

/-- The bases of a class of a based world exist. -/
theorem Based.exists_base (h : w.Based) (hc : w.Exists c) (hb : b ∈ w.basesOf c) :
    w.Exists b := by
  cases b with
  | native d => trivial
  | world j =>
      cases c with
      | native c =>
          obtain ⟨d, -, hd⟩ := List.mem_map.1 hb
          cases hd
      | world i => exact Nat.lt_trans (h.earlier i j hb) hc

/-- The line of a class is made of the class and **the lines of its bases**. -/
theorem Based.mem_lineOf_iff (h : w.Based) (hc : w.Exists c) (d : ClassRef) :
    d ∈ w.lineOf c ↔ d = c ∨ ∃ b ∈ w.basesOf c, d ∈ w.lineOf b := by
  cases c with
  | native c =>
      constructor
      · intro hd
        obtain ⟨d, onLine, rfl⟩ := List.mem_map.1 hd
        rcases (mem_line_native_iff c d).1 onLine with rfl | ⟨b, hb, above⟩
        · exact Or.inl rfl
        · exact Or.inr ⟨.native b, List.mem_map_of_mem hb, List.mem_map_of_mem above⟩
      · rintro (rfl | ⟨b, hb, hd⟩)
        · exact List.mem_map_of_mem ((mem_line_native_iff c c).2 (Or.inl rfl))
        · obtain ⟨b, base, rfl⟩ := List.mem_map.1 hb
          obtain ⟨d, above, rfl⟩ := List.mem_map.1 hd
          exact List.mem_map_of_mem ((mem_line_native_iff c d).2 (Or.inr ⟨b, base, above⟩))
  | world i => exact h.line i hc d

/-- A class stands on **its own line**. -/
theorem Based.self_mem_lineOf (h : w.Based) (hc : w.Exists c) : c ∈ w.lineOf c :=
  (h.mem_lineOf_iff hc c).2 (Or.inl rfl)

/-- Heights are bounded by the number of classes. -/
theorem heightOf_le (hc : w.Exists c) : heightOf c ≤ w.classes.size + 8 := by
  cases c with
  | native c =>
      have := length_line_le c
      simp only [heightOf]
      omega
  | world i =>
      have : i < w.classes.size := hc
      simp only [heightOf]
      omega

/-! ### A new class -/

section Push

variable {r : ClassRec}

/-- A new class leaves the lines of the others. -/
theorem lineOf_push (hc : w.Exists c) :
    ({ w with classes := w.classes.push r } : World).lineOf c = w.lineOf c := by
  cases c with
  | native c => rfl
  | world i =>
      have : i < w.classes.size := hc
      simp only [lineOf, Array.getElem?_push, Nat.ne_of_lt this, ↓reduceIte]

/-- A new class leaves the bases of the others. -/
theorem basesOf_push (hc : w.Exists c) :
    ({ w with classes := w.classes.push r } : World).basesOf c = w.basesOf c := by
  cases c with
  | native c => rfl
  | world i =>
      have : i < w.classes.size := hc
      simp only [basesOf, Array.getElem?_push, Nat.ne_of_lt this, ↓reduceIte]

/-- A class whose line is **merged** from those of its bases, which exist, keeps the classes of a
world based. -/
theorem Based.push (h : w.Based) (bases : ∀ b ∈ r.bases, w.Exists b)
    (line : linearize (.world w.classes.size) (r.bases.map fun b => (b, w.lineOf b)) =
      some r.line) : Based { w with classes := w.classes.push r } := by
  have newBases : ({ w with classes := w.classes.push r } : World).basesOf
      (.world w.classes.size) = r.bases := by
    simp [basesOf]
  have newLine : ({ w with classes := w.classes.push r } : World).lineOf
      (.world w.classes.size) = r.line := by
    simp [lineOf]
  constructor
  · intro i j hj
    rcases Nat.lt_trichotomy i w.classes.size with hi | rfl | hi
    · rw [basesOf_push (c := .world i) hi] at hj
      exact h.earlier i j hj
    · rw [newBases] at hj
      exact bases _ hj
    · have beyond : (w.classes.push r)[i]? = none := by
        rw [Array.getElem?_eq_none_iff, Array.size_push]
        exact hi
      simp [basesOf, beyond] at hj
  · intro i hi d
    rw [Array.size_push] at hi
    rcases Nat.lt_or_eq_of_le (Nat.le_of_lt_succ hi) with hi | rfl
    · rw [lineOf_push (c := .world i) hi, basesOf_push (c := .world i) hi, h.line i hi]
      refine or_congr_right (exists_congr fun b => and_congr_right fun hb => ?_)
      rw [lineOf_push (h.exists_base (c := .world i) hi hb)]
    · rw [newLine, newBases, mem_linearize_iff line]
      refine or_congr_right ⟨?_, ?_⟩
      · rintro ⟨_, listed, hd⟩
        obtain ⟨b, hb, rfl⟩ := List.mem_map.1 listed
        refine ⟨b, hb, ?_⟩
        rw [lineOf_push (bases b hb)]
        rcases hd with rfl | hd
        · exact h.self_mem_lineOf (bases _ hb)
        · exact hd
      · rintro ⟨b, hb, hd⟩
        rw [lineOf_push (bases b hb)] at hd
        exact ⟨_, List.mem_map_of_mem hb, Or.inr hd⟩

end Push

/-! ### Names from base to base -/

/-- The names that are collected from a class and, **base by base**, from the classes above it to a
given height. -/
def namesAbove (w : World) : Nat → ClassRef → List String
  | 0, _ => []
  | height + 1, c => (w.ownMembers c).names ++ ((w.basesOf c).map (w.namesAbove height)).flatten

/-- The names that are collected from base to base are those that the **resolution line** has a
member of. -/
theorem mem_namesAbove_iff (h : w.Based) {height : Nat} {name : String} (hc : w.Exists c)
    (high : heightOf c ≤ height) :
    name ∈ w.namesAbove height c ↔ (w.typeMember? c name).isSome = true := by
  have onLine (c : ClassRef) : (w.typeMember? c name).isSome = true ↔
      ∃ d ∈ w.lineOf c, (w.ownMember? d name).isSome = true := by
    rw [typeMember?, List.findSome?_isSome_iff]
  induction height generalizing c with
  | zero =>
      have := heightOf_pos c
      omega
  | succ height ih =>
      have above (b : ClassRef) (hb : b ∈ w.basesOf c) : name ∈ w.namesAbove height b ↔
          ∃ d ∈ w.lineOf b, (w.ownMember? d name).isSome = true := by
        have lower := h.heightOf_lt hb
        exact (ih (h.exists_base hc hb) (by omega)).trans (onLine b)
      rw [namesAbove, List.mem_append, Members.mem_names_iff, ← ownMember?_eq_find?, onLine]
      constructor
      · rintro (own | inherited)
        · exact ⟨c, h.self_mem_lineOf hc, own⟩
        · obtain ⟨_, listed, member⟩ := List.mem_flatten.1 inherited
          obtain ⟨b, hb, rfl⟩ := List.mem_map.1 listed
          obtain ⟨d, hd, held⟩ := (above b hb).1 member
          exact ⟨d, (h.mem_lineOf_iff hc d).2 (Or.inr ⟨b, hb, hd⟩), held⟩
      · rintro ⟨d, hd, held⟩
        rcases (h.mem_lineOf_iff hc d).1 hd with rfl | ⟨b, hb, hd⟩
        · exact Or.inl held
        · exact Or.inr (List.mem_flatten.2
            ⟨_, List.mem_map_of_mem hb, (above b hb).2 ⟨d, hd, held⟩⟩)

/-- A class **shows its bases**: it is read plainly, and no member of its metaclass stands in the
place of the field of its bases. -/
structure ShowsBases (w : World) (c : ClassRef) : Prop extends w.ReadsPlainly c where
  bases : w.typeMember? (w.metaclassOf c) "__bases__" =
    some (.nativeMember (.native .type) .getset "__bases__")

/-- A class shows its bases if its **metaclass** is the native one. -/
theorem showsBases_of_metaclass (h : w.metaclassOf c = .native .type) : w.ShowsBases c where
  toReadsPlainly := readsPlainly_of_metaclass h
  bases := by
    rw [h, typeMember?_native]
    rfl

end World

namespace Visible

open Attribute

variable {run : Runner} {w : World} {c : ClassRef}

/-- A class that shows its bases **gives them**. -/
theorem outcome_get_bases (h : w.ShowsBases c) :
    (get run (.cls c) "__bases__").outcome w = (.ok (.tuple ((w.basesOf c).map .cls)), w) := by
  apply get_of_standardGet h.front
  rw [standardGet, outcome_classGet_of_outside h.bases (controls_getset w _ _)]
  have bases : classField w c "__bases__" = some (.tuple ((w.basesOf c).map .cls)) := by
    cases c with
    | native c =>
        simp only [classField, World.basesOf, List.map_map]
        rfl
    | world i => rfl
  show ((classField w c "__bases__").elim (Run.raise
    (.noAttribute (w.fullName (.native .type)) "__bases__")) pure : Run Value).outcome w = _
  rw [bases]
  rfl

/-- The **listing of a class** collects the names from base to base, and runs no code. -/
theorem outcome_classNames (based : w.Based) (hc : w.Exists c)
    (shown : ∀ d ∈ w.lineOf c, w.ShowsBases d) (height : Nat) :
    (classNames run height (.cls c)).outcome w = (.ok (w.namesAbove height c), w) := by
  induction height generalizing c with
  | zero => rfl
  | succ height ih =>
      have here := shown c (based.self_mem_lineOf hc)
      have table : (get? run (.cls c) "__dict__").outcome w =
          (.ok (some (.proxy (w.ownMembers c))), w) := by
        rw [get?, Run.outcome_optional, outcome_get_table here.accessible]
      have bases : (get? run (.cls c) "__bases__").outcome w =
          (.ok (some (.tuple ((w.basesOf c).map .cls))), w) := by
        rw [get?, Run.outcome_optional, outcome_get_bases here]
      have above : (((w.basesOf c).map Value.cls).mapM (classNames run height)).outcome w =
          (.ok ((w.basesOf c).map (w.namesAbove height)), w) := by
        rw [List.mapM_map]
        refine Run.outcome_mapM fun b hb => ih (based.exists_base hc hb) fun d hd => ?_
        exact shown d ((based.mem_lineOf_iff hc d).2 (Or.inr ⟨b, hb, hd⟩))
      rw [classNames, Run.outcome_bind_of_ok table]
      have keys : (tableKeys run (.proxy (w.ownMembers c))).outcome w =
          (.ok (w.ownMembers c).names, w) := rfl
      simp only
      rw [Run.outcome_bind_of_ok keys, Run.outcome_bind_of_ok bases]
      simp only [pure_bind]
      rw [Run.outcome_bind_of_ok above]
      rfl

end Visible

end OrderedScope
