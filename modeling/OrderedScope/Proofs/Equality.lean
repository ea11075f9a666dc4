import OrderedScope.Interpreter
import OrderedScope.Proofs.Access

/-!
# Equality and Hashing of Plain Values

Where no class has a say in the hash or the equality of a value, nor in the hash of what it is made
of, no code of the world is run to compare it with a text or a group, or to look it up in a table of
groups: it is the group whose name its characters are. That a value has no hash at all makes no
difference, for then it is compared with each name.

## Main results

* `Value.outcome_equalGroups`: which values equal which groups.
* `Value.outcome_hashOf`: a value that is keyed plainly has its hash or is refused one.
* `Group.outcome_ofItem?`: the group that such a value stands for.
-/

namespace OrderedScope

/-- Runs along a list that find out without a change whether something holds find out whether it
holds **of any**. -/
theorem Run.outcome_anyM {α : Type} {p : α → Run Bool} {q : α → Bool} {w : World} (l : List α)
    (h : ∀ a, (p a).outcome w = (.ok (q a), w)) : (l.anyM p).outcome w = (.ok (l.any q), w) := by
  induction l with
  | nil => rfl
  | cons a rest ih =>
    rw [List.anyM, outcome_bind_of_ok (h a), List.any_cons]
    cases q a with
    | true => rfl
    | false => exact ih

/-- A loop of runs that change nothing ends at its first failure, or **goes through**. -/
theorem Run.outcome_forIn {α : Type} {f : α → Run Value} {w : World} {failure : Fault → Prop}
    (l : List α) (h : ∀ a ∈ l, (∃ e, failure e ∧ (f a).outcome w = (.error e, w)) ∨
      ∃ x, (f a).outcome w = (.ok x, w)) :
    let loop : Run PUnit := forIn l .unit fun a _ => do
      let _ ← f a
      pure (.yield .unit)
    (∃ e, failure e ∧ loop.outcome w = (.error e, w)) ∨ loop.outcome w = (.ok .unit, w) := by
  induction l with
  | nil => exact .inr rfl
  | cons a rest ih =>
    rw [List.forall_mem_cons] at h
    simp only [List.forIn_cons, bind_assoc, pure_bind]
    obtain ⟨e, fails, ends⟩ | ⟨x, given⟩ := h.1
    · exact .inl ⟨e, fails, outcome_bind_of_error ends⟩
    · rw [outcome_bind_of_ok given]
      exact ih h.2

/-- A value is a **plain key** if no class has a say in the hash or the equality of it. A class can
refuse its instances a hash. -/
structure World.PlainKey (w : World) (v : Value) : Prop where
  hash : ∀ hook, w.ownHook? v "__hash__" = some hook → hook = .none
  equality : w.ownHook? v "__eq__" = none

/-- A value is **keyed plainly** if it is a plain key, and so is what it is made of, with at most
some values around each other. -/
inductive World.KeyedPlainly (w : World) : Nat → Value → Prop
  | single {depth : Nat} {v : Value} : w.PlainKey v → v.hashedParts w = [] → w.KeyedPlainly depth v
  | around {depth : Nat} {v : Value} : w.PlainKey v →
      (∀ p ∈ v.hashedParts w, w.KeyedPlainly depth p) → w.KeyedPlainly (depth + 1) v

/-- What is keyed plainly is a plain key. -/
theorem World.KeyedPlainly.key {w : World} {depth : Nat} {v : Value} (h : w.KeyedPlainly depth v) :
    w.PlainKey v := by
  cases h <;> assumption

/-- The values of the native classes are **plain keys**. -/
theorem World.plainKey_of_native {w : World} {v : Value} {c : NativeClass}
    (h : w.classOf v = .native c) : w.PlainKey v := by
  refine ⟨fun hook own => ?_, ownHook?_native h (by decide)⟩
  rw [ownHook?, h, typeMember?_native] at own
  cases c with
  | descriptor get set delete => cases get <;> cases set <;> cases delete <;> cases own
  | _ => cases own <;> rfl

namespace Value

variable {run : Runner} {w : World} {v : Value} {groups : List Group} {entries : List Value}

/-! ### Equality -/

/-- What has no say in its equality leaves it **open**. -/
theorem outcome_asksEqual (unasked : w.ownHook? v "__eq__" = Option.none) (other : Value) :
    (asksEqual run v other).outcome w = (.ok Option.none, w) := by
  rw [asksEqual, Run.outcome_bind_of_ok (Attribute.outcome_ask? unasked _)]
  rfl

/-- What has no say in its equality equals a text **by its characters**. -/
theorem outcome_equalsText (unasked : w.ownHook? v "__eq__" = Option.none) (s : String) :
    (equalsText run s v).outcome w = (.ok (w.content? v == some s), w) := by
  rw [equalsText, Run.outcome_bind_of_ok (outcome_asksEqual unasked _)]
  rfl

/-- A value equals a group by the characters of the **name**, if it is a text; else only its class
can say that it does. -/
theorem outcome_equalsGroup (unasked : w.content? v = Option.none →
    w.ownHook? v "__eq__" = Option.none) (g : Group) :
    (equalsGroup run g v).outcome w = (.ok (w.content? v == some g.name), w) := by
  rw [equalsGroup, Run.outcome_bind_of_ok (Run.outcome_reading _ w)]
  rcases content : w.content? v with _ | s
  · dsimp only
    rw [Run.outcome_bind_of_ok (outcome_asksEqual (unasked content) _)]
    rfl
  · rfl

/-- Values have the **names** of groups, one by one. -/
def Named (w : World) (items : List Value) (groups : List Group) : Prop :=
  items.map w.content? = groups.map fun g => some g.name

instance (w : World) (items : List Value) (groups : List Group) :
    Decidable (Named w items groups) :=
  inferInstanceAs (Decidable (_ = _))

/-- Values equal groups one by one **exactly if** they have their names. -/
theorem outcome_equalGroups (unasked : ∀ v ∈ entries, w.content? v = Option.none →
    w.ownHook? v "__eq__" = Option.none) :
    (equalGroups run groups entries).outcome w = (.ok (decide (Named w entries groups)), w) := by
  induction groups generalizing entries with
  | nil => cases entries <;> rfl
  | cons g groups ih =>
    cases entries with
    | nil => rfl
    | cons v rest =>
      rw [List.forall_mem_cons] at unasked
      rw [equalGroups, Run.outcome_bind_of_ok (outcome_equalsGroup unasked.1 g)]
      by_cases same : w.content? v = some g.name
      · rw [if_pos (by simp [same]), ih unasked.2, decide_eq_decide.2]
        simp [Named, same]
      · rw [if_neg (by simp [same]), decide_eq_false (by simp [Named, same])]
        rfl

/-! ### Hashing -/

/-- The hash that a class leaves to the platform is **found**, or there is none, if that is so of
what the value is made of. -/
theorem outcome_standardHash (parts : ∀ p ∈ v.hashedParts w,
    (∃ e, (∃ c, e = .raised (.unhashable c)) ∧
      (run (.call (.nativeFn "hash") [p] [])).outcome w = (.error e, w)) ∨
    ∃ x, (run (.call (.nativeFn "hash") [p] [])).outcome w = (.ok x, w)) :
    (∃ c, (v.standardHash run).outcome w = (.error (.raised (.unhashable c)), w)) ∨
    (v.standardHash run).outcome w = (.ok (w.platform.hash ((w.content? v).elim v .str)), w) := by
  rw [standardHash, Run.outcome_bind_of_ok (Run.outcome_get w)]
  by_cases refused : refusesHash w v = true
  · rw [if_pos refused]
    exact .inl ⟨_, rfl⟩
  · rw [if_neg refused]
    obtain ⟨_, ⟨c, rfl⟩, ends⟩ | ends := Run.outcome_forIn _ parts
    · exact .inl ⟨c, Run.outcome_bind_of_error ends⟩
    · exact .inr (Run.outcome_bind_of_ok ends)

/-- The hash of a plain key is left to the platform, or it is **refused**. -/
theorem outcome_hashOf_of_plainKey (run : Runner) (h : w.PlainKey v) :
    (∃ c, (v.hashOf run).outcome w = (.error (.raised (.unhashable c)), w)) ∨
    (v.hashOf run).outcome w = (v.standardHash run).outcome w := by
  rw [hashOf, Run.outcome_bind_of_ok (Run.outcome_reading _ w)]
  rcases own : w.ownHook? v "__hash__" with _ | hook
  · right
    dsimp only
    rw [Run.outcome_bind_of_ok (Attribute.outcome_ask? own _)]
  · obtain rfl := h.hash hook own
    exact .inl ⟨_, rfl⟩

/-- A value that is keyed plainly **has its hash**, or is refused one. -/
theorem outcome_hashOf {depth budget : Nat} (h : w.KeyedPlainly depth v) (enough : depth ≤ budget) :
    (∃ c, (v.hashOf (Interpreter.runner budget)).outcome w =
      (.error (.raised (.unhashable c)), w)) ∨
    (v.hashOf (Interpreter.runner budget)).outcome w =
      (.ok (w.platform.hash ((w.content? v).elim v .str)), w) := by
  induction h generalizing budget with
  | @single depth v key single =>
    obtain refused | standard := outcome_hashOf_of_plainKey (Interpreter.runner budget) key
    · exact .inl refused
    · rw [standard]
      exact outcome_standardHash (by simp [single])
  | @around depth v key _ ih =>
    obtain ⟨budget, rfl⟩ : ∃ less, budget = less + 1 := ⟨budget - 1, by omega⟩
    obtain refused | standard :=
      outcome_hashOf_of_plainKey (Interpreter.runner (budget + 1)) key
    · exact .inl refused
    · rw [standard]
      refine outcome_standardHash fun p hp => ?_
      have task : (Interpreter.runner (budget + 1) (.call (.nativeFn "hash") [p] [])).outcome w =
          (.int <$> hashOf (Interpreter.runner budget) p : Run Value).outcome w := rfl
      rw [task, Run.outcome_map]
      obtain ⟨c, hashed⟩ | hashed := ih p hp (Nat.le_of_succ_le_succ enough) <;> rw [hashed]
      · exact .inl ⟨_, ⟨c, rfl⟩, rfl⟩
      · exact .inr ⟨_, rfl⟩

end Value

/-! ### Groups -/

namespace Group

variable {run : Runner} {w : World} {v : Value} {naming : Group → String}

/-- A group is found by its name **alone**. -/
theorem ofName?_eq_some_iff {g : Group} {s : String} : ofName? s = some g ↔ s = g.name := by
  constructor
  · intro h
    have found := List.find?_some h
    exact (eq_of_beq found).symm
  · rintro rfl
    exact ofName?_name g

/-- The group whose **name** a value has. -/
def named? (w : World) (v : Value) : Option Group := (w.content? v).bind ofName?

/-- A value has the name of a group **exactly if** its characters are the name. -/
theorem named?_eq_some_iff {g : Group} : named? w v = some g ↔ w.content? v = some g.name := by
  simp only [named?, Option.bind_eq_some_iff, ofName?_eq_some_iff, exists_eq_right]

/-- The first group whose text what has no say in its equality **has**. -/
theorem outcome_firstEqual (run : Runner) (naming : Group → String)
    (unasked : w.ownHook? v "__eq__" = none) (groups : List Group) :
    (firstEqual run naming v groups).outcome w =
      (.ok (groups.find? fun g => w.content? v == some (naming g)), w) := by
  induction groups with
  | nil => rfl
  | cons g rest ih =>
    rw [firstEqual, Run.outcome_bind_of_ok (Value.outcome_equalsText unasked _), List.find?_cons]
    cases w.content? v == some (naming g) with
    | true => rfl
    | false => exact ih

/-- The group by name is the first of all whose **name** a value has. -/
theorem find?_content (w : World) (v : Value) :
    (all.find? fun g => w.content? v == some g.name) = named? w v := by
  rw [named?]
  rcases w.content? v with _ | s
  · exact List.find?_eq_none.2 (by simp)
  · rw [Option.bind_some, ofName?]
    congr 1
    funext g
    simp [Bool.beq_comm]

/-- A value that is keyed plainly **stands for** the group whose name it has, and no code is run to
find that out. -/
theorem outcome_ofItem? {depth budget : Nat} (h : w.KeyedPlainly depth v)
    (enough : depth ≤ budget) :
    (ofItem? (Interpreter.runner budget) v).outcome w = (.ok (named? w v), w) := by
  have first (groups : List Group) :=
    outcome_firstEqual (Interpreter.runner budget) name h.key.equality groups
  obtain ⟨c, hashed⟩ | hashed := Value.outcome_hashOf h enough
  · have refused : (keyed (Interpreter.runner budget) name v).outcome w =
        (.error (.raised (.unhashable c)), w) := Run.outcome_bind_of_error hashed
    rw [ofItem?, Run.outcome_recover, Run.outcome_recover, refused]
    exact (first all).trans (by rw [find?_content])
  · have found : (keyed (Interpreter.runner budget) name v).outcome w = (.ok (named? w v), w) := by
      rw [keyed, Run.outcome_bind_of_ok hashed, Run.outcome_bind_of_ok (Run.outcome_reading _ w),
        first, List.find?_filter, ← find?_content]
      -- What equals a name has its hash.
      congr 3
      funext g
      by_cases same : w.content? v = some g.name <;> simp [same]
    rw [ofItem?, Run.outcome_recover, Run.outcome_recover, found]

end Group

end OrderedScope
