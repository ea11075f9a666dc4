import OrderedScope.Proofs.Listing

/-!
# The Walk and the Attribute Protocol

The static strategy follows the attribute protocol by hand: it walks the tables of a context, and
binds what it finds through the reader that the class of the entry gives. The dynamic strategy looks
the name up in the tables and has the member fetched by access. For an instance without hooks both
come to the same entry and bind it in the same way, wherever its tables, and the hooks of the entry,
are what the classes tell about them.

Four things keep them apart. A bound method passes to its function, which no walk does. Of an own
attribute and a member that can be read and deleted, but not written, the dynamic strategy tests one
and fetches the other. The test itself can run code that changes the tables between the look-up and
the access. And where the tables hold the object that tells that there is nothing, the dynamic
strategy asks the context itself, which answers by that object.

## Main results

* `Attribute.outcome_bindEntry`: an entry is bound by hand as access binds it.
* `Attribute.outcome_get_of_used`: access to a value without hooks gives what its entry gives.
* `Strategy.static_agrees`: the static and the dynamic strategy answer alike and give alike.
* `Strategy.static_parts`: instances without hooks for which they do not.
-/

namespace OrderedScope

/-! ### Binding by hand -/

namespace TableEntry

/-- An entry as a **walk** lists it: what the table has, and whether it is to be bound. -/
def walked : TableEntry → Value × Bool
  | own x => (x, false)
  | member raw _ _ => (raw, true)

/-- What a walk lists for an entry is what the table has. -/
theorem walked_raw (entry : TableEntry) : entry.walked.1 = entry.raw := by
  cases entry <;> rfl

/-- An entry as a walk **finds** it, unless it tells that there is nothing. -/
def found? (entry : TableEntry) : Option (Value × Bool) :=
  entry.walked.1.known?.map (·, entry.walked.2)

/-- An entry that tells that there is nothing is **not found**. -/
theorem found?_of_missing {entry : TableEntry} (h : entry.raw = .missing) :
    entry.found? = none := by
  rw [found?, walked_raw, h]
  rfl

/-- Any other entry is **found as it is listed**. -/
theorem found?_of_known {entry : TableEntry} (h : entry.raw ≠ .missing) :
    entry.found? = some entry.walked := by
  rw [found?, walked_raw, Value.known?_eq_some.2 ⟨rfl, h⟩, ← walked_raw]
  rfl

end TableEntry

namespace World

/-- For what is no class the entry that standard access uses is **listed**. -/
theorem listed?_of_instance {w : World} {v : Value} (apart : ∀ c, v ≠ .cls c) (name : String) :
    w.listed? v name = (w.objectUsed? v name).map (·.walked) := by
  have listed : (fun entry : TableEntry => match entry with
      | .own x => (x, false)
      | .member raw _ _ => (raw, true)) = TableEntry.walked := by
    funext entry
    cases entry <;> rfl
  cases v with
  | cls c => exact absurd rfl (apart c)
  | _ => exact congrArg (fun f => (w.objectUsed? _ name).map f) listed

/-- The instance and the class to which an entry is **bound** for a value: a class is its own
owner. -/
def boundTo (w : World) : Value → Option Value × ClassRef
  | .cls c => (none, c)
  | v => (some v, w.classOf v)

/-- A value that is no class is bound to itself. -/
theorem boundTo_of_instance {w : World} {v : Value} (apart : ∀ c, v ≠ .cls c) :
    w.boundTo v = (some v, w.classOf v) := by
  cases v with
  | cls c => exact absurd rfl (apart c)
  | _ => rfl

end World

namespace Attribute

variable {run : Runner} {raw v : Value} {inst : Option Value} {owner : ClassRef} {name : String}
  {w : World}

/-- The class of an entry tells its hooks, and **its reader**: what it gives in the place of the
reader is called as the one in its table is. -/
structure BindsAlike (run : Runner) (w : World) (raw : Value) : Prop extends w.TellsHooks raw where
  reader : ∀ f x, w.typeMember? (w.classOf raw) "__get__" = some f →
    (bind run f none (w.classOf raw)).outcome w = (.ok x, w) →
    ∀ args, (run (.call x args [])).outcome w = (run (.call f args [])).outcome w

/-- An entry is bound by **the reader of its class** if that is no native wrapper: it is called, and
without one the entry is given as it is. The kinds of entries that are bound otherwise all have a
wrapper for a reader. -/
theorem outcome_bind_by_reader (run : Runner)
    (code : ∀ o n, w.typeMember? (w.classOf raw) "__get__" ≠ some (.nativeMember o .wrapper n))
    (inst : Option Value) (owner : ClassRef) :
    (bind run raw inst owner).outcome w =
      match w.typeMember? (w.classOf raw) "__get__" with
      | some reader => (run (.call reader [raw, inst.getD .none, .cls owner] [])).outcome w
      | none => (.ok raw, w) := by
  have native {c o : NativeClass} (cls : w.classOf raw = .native c)
      (held : c.line.findSome? (·.member? "__get__") =
        some (.nativeMember (.native o) .wrapper "__get__")) : False :=
    code (.native o) "__get__" (by rw [cls, w.typeMember?_native, held])
  have followed (next : Option Value → Run Value) (unread : next none = pure raw)
      (read : ∀ f, next (some f) = run (.call f [raw, inst.getD .none, .cls owner] [])) :
      (Run.reading (fun w => w.typeMember? (w.classOf raw) "__get__") >>= next).outcome w =
        match w.typeMember? (w.classOf raw) "__get__" with
        | some reader => (run (.call reader [raw, inst.getD .none, .cls owner] [])).outcome w
        | none => (.ok raw, w) := by
    rw [Run.outcome_bind_of_ok (Run.outcome_reading _ w)]
    rcases w.typeMember? (w.classOf raw) "__get__" with _ | f
    · rw [unread]
      rfl
    · rw [read]
  cases raw with
  | fn i => exact (native rfl rfl).elim
  | libFn f => exact (native rfl rfl).elim
  | staticMethod f => exact (native rfl rfl).elim
  | classMethod f => exact (native rfl rfl).elim
  | property getter setter name => exact (native rfl rfl).elim
  | slot o name => exact (native rfl rfl).elim
  | nativeMember o kind name => cases kind <;> exact (native rfl rfl).elim
  | _ => exact followed _ rfl fun _ => rfl

/-- An entry without a reader is **given as it is**. -/
theorem outcome_bind_unread (run : Runner)
    (h : w.typeMember? (w.classOf raw) "__get__" = none) (inst : Option Value) (owner : ClassRef) :
    (bind run raw inst owner).outcome w = (.ok raw, w) := by
  rw [outcome_bind_by_reader run (by rw [h]; nofun), h]

/-- An entry whose reader is **no native wrapper** is bound by calling it. -/
theorem outcome_bind_read (run : Runner) {f : Value}
    (h : w.typeMember? (w.classOf raw) "__get__" = some f)
    (code : ∀ o n, f ≠ .nativeMember o .wrapper n) (inst : Option Value) (owner : ClassRef) :
    (bind run raw inst owner).outcome w =
      (run (.call f [raw, inst.getD .none, .cls owner] [])).outcome w := by
  rw [outcome_bind_by_reader run (by simpa only [h, ne_eq, Option.some.injEq] using code), h]

/-- To bind an entry by hand is to **follow the reader** of its class. -/
theorem outcome_bindEntry_eq (run : Runner) (raw v : Value) (w : World) :
    (bindEntry run raw v).outcome w = (do
      match ← get? run (.cls (w.classOf raw)) "__get__" with
      | none => pure raw
      | some (.nativeMember _ .wrapper _) => bind run raw (w.boundTo v).1 (w.boundTo v).2
      | some reader =>
        run (.call reader [raw, (w.boundTo v).1.getD .none, .cls (w.boundTo v).2] []) :
          Run Value).outcome w := by
  rw [bindEntry, Run.outcome_bind_of_ok (Run.outcome_get w)]
  cases v <;> rfl

/-- An entry is bound by hand **as access binds it**. -/
theorem outcome_bindEntry (h : BindsAlike run w raw) (v : Value) :
    (bindEntry run raw v).outcome w =
      (bind run raw (w.boundTo v).1 (w.boundTo v).2).outcome w := by
  have told := outcome_get?_hook run h.toTellsHooks (show "__get__" ∈ _ by simp)
  rw [outcome_bindEntry_eq]
  rcases hf : w.typeMember? (w.classOf raw) "__get__" with _ | f <;> rw [hf] at told
  · rw [Run.outcome_bind_of_ok told, outcome_bind_unread run hf]
    rfl
  · obtain ⟨x, hx, told⟩ := told
    rw [Run.outcome_bind_of_ok told]
    split
    · rename_i other
      cases other
    · rfl
    · rename_i reader code same
      obtain rfl := Option.some.inj same
      -- A wrapper is given as it is, so what is given for another reader is no wrapper.
      have apart : ∀ o n, f ≠ .nativeMember o .wrapper n := by
        rintro o n rfl
        cases hx
        exact code _ _ rfl
      rw [outcome_bind_read run hf apart]
      exact h.reader f x hf hx _

/-- An entry of a **native class** is bound alike: its hooks are wrappers or functions of the
library, and no metaclass stands in between. -/
theorem bindsAlike_of_native {c : NativeClass} (run : Runner) (cls : w.classOf raw = .native c) :
    BindsAlike run w raw := by
  have outside {hook : String} (hh : hook ∈ ["__get__", "__set__", "__delete__"]) :
      w.typeMember? (.native c.metaclass) hook = none := by
    rw [w.typeMember?_native]
    simp only [List.mem_cons, List.not_mem_nil, or_false] at hh
    rcases hh with rfl | rfl | rfl <;> cases c <;> rfl
  have itself {hook : String} (hh : hook ∈ ["__get__", "__set__", "__delete__"]) {f : Value}
      (held : w.typeMember? (.native c) hook = some f) :
      (∃ o n, f = .nativeMember o .wrapper n) ∨ ∃ g, f = .libFn g := by
    rw [w.typeMember?_native] at held
    simp only [List.mem_cons, List.not_mem_nil, or_false] at hh
    rcases hh with rfl | rfl | rfl
    all_goals
      cases c with
      | descriptor get set delete =>
          cases get <;> cases set <;> cases delete <;>
            first | exact Or.inr ⟨_, (Option.some.inj held).symm⟩ | cases held
      | _ => first | exact Or.inl ⟨_, _, (Option.some.inj held).symm⟩ | cases held
  refine ⟨⟨?_, ?_, fun hook hh => ?_, fun hook hh f held => ?_⟩, fun f x held given args => ?_⟩
  · rw [cls, World.frontHook?, World.classOf, World.metaclassOf, World.typeMember?_native]
    cases c <;> rfl
  · rw [cls, World.backHook?, World.classOf, World.metaclassOf, World.typeMember?_native]
    cases c <;> rfl
  · rw [cls, World.classUsed?, World.metaclassOf, outside hh]
  · rw [cls] at held ⊢
    rcases itself hh held with ⟨o, n, rfl⟩ | ⟨g, rfl⟩ <;> rfl
  · rw [cls] at held given
    rcases itself (by simp) held with ⟨o, n, rfl⟩ | ⟨g, rfl⟩ <;> cases given <;> rfl

/-! ### Access by an entry -/

/-- What a module has of its class is **given**: none of it is computed by code, and none misses. -/
theorem bind_module (run : Runner) {i : ModuleId} {own : Members}
    (held : w.ownAttrs? (.module i) = some own)
    (member : w.typeMember? (.native .module) name = some raw) :
    ∃ x, (bind run raw (some (.module i)) (.native .module)).outcome w = (.ok x, w) := by
  rw [w.typeMember?_native] at member
  obtain ⟨c, hc, listed⟩ := List.exists_of_findSome?_eq_some member
  have above : c = .module ∨ c = .object := by
    simpa [NativeClass.line, NativeClass.above] using hc
  have table (o : ClassRef) :
      (field o "__dict__" (.module i)).outcome w = (.ok (.dict own), w) := by
    show (((w.ownAttrs? (.module i)).map Value.dict).elim
      (Run.raise (.noAttribute (w.fullName o) "__dict__")) pure : Run Value).outcome w = _
    rw [held]
    rfl
  rcases NativeClass.member?_cases listed with value | ⟨k, rfl, named⟩
  · have unread : w.typeMember? (w.classOf raw) "__get__" = none := by
      rcases above with rfl | rfl
      · cases value
      · have values : ∀ e ∈ NativeClass.object.values, e.2 = .nativeFn "__new__" ∨ e.2 = .none := by
          simp [NativeClass.values]
        rcases values (name, raw) (Members.mem_of_find? value) with rfl | rfl <;>
          exact (w.typeMember?_native _ _).trans rfl
    exact ⟨raw, outcome_bind_unread run unread _ _⟩
  · cases k with
    | method => exact ⟨_, rfl⟩
    | wrapper => exact ⟨_, rfl⟩
    | classMethod => exact ⟨_, rfl⟩
    | getset =>
        rcases above with rfl | rfl <;> obtain rfl := List.mem_singleton.1 named <;> exact ⟨_, rfl⟩
    | slot =>
        rcases above with rfl | rfl
        · obtain rfl := List.mem_singleton.1 named
          exact ⟨_, table _⟩
        · cases named

/-- A module gives what is read off **its own table**. -/
theorem give_module (run : Runner) {i : ModuleId} {own : Members} {entry : TableEntry}
    (held : w.ownAttrs? (.module i) = some own)
    (used : w.objectUsed? (.module i) name = some entry) :
    ∃ x, (entry.give run).outcome w = (.ok x, w) := by
  rw [World.objectUsed?] at used
  rcases hm : w.typeMember? (w.classOf (.module i)) name with _ | raw <;>
    rcases ho : (w.ownAttrs? (.module i)).bind (·.find? name) with _ | x <;>
    simp only [hm, ho] at used
  · cases used
  · cases used
    exact ⟨x, rfl⟩
  · cases used
    exact bind_module run held hm
  · split at used <;> cases used
    · exact bind_module run held hm
    · exact ⟨x, rfl⟩

/-- Access to a value without hooks **gives what its entry gives**, and fails as it does. -/
theorem outcome_get_of_used (run : Runner) {entry : TableEntry} (h : w.Unhooked v)
    (exist : ∀ i, v = .module i → ∃ own, w.ownAttrs? v = some own)
    (used : w.used? v name = some entry) :
    (get run v name).outcome w = (entry.give run).outcome w := by
  rw [outcome_get_of_unhooked h.front h.back]
  by_cases module : ∃ i, v = .module i
  · obtain ⟨i, rfl⟩ := module
    obtain ⟨own, held⟩ := exist i rfl
    obtain ⟨x, given⟩ := give_module run held used
    rw [given]
    exact outcome_standardGet_of_used used given
  · rw [outcome_standardGet run (not_exists.1 module), used]

end Attribute

/-! ### What is kept back -/

namespace Lookup

open Attribute

variable {run : Runner} {restricted : Bool} {context : Value} {name : String} {w : World}

/-- Whether a context **keeps back** an entry: a slot that it never filled, or a member that is
marked if restricted members are not included. Both strategies ask this of the entry that they
see. -/
def keepsBack (run : Runner) (restricted : Bool) (raw context : Value) : Run Bool := do
  if ← isEmptySlot run raw context then pure true
  else if restricted then pure false
  else isMarked run raw

/-- Where marks do not count, an entry is kept back if it is **an empty slot**. -/
theorem keepsBack_true (run : Runner) (raw context : Value) :
    keepsBack run true raw context = isEmptySlot run raw context := by
  refine Eq.trans ?_ (bind_pure (isEmptySlot run raw context))
  rw [keepsBack]
  congr
  funext empty
  cases empty <;> rfl

/-- The standing of a name that is held is told by **whether the entry is kept back**. -/
theorem standing_eq (run : Runner) (restricted : Bool) (context : Value) (name : String)
    (seen : Strategy.refuses restricted name = false) :
    standing run restricted context name = (do
      match ← held? run context name with
      | none => pure .unheld
      | some raw => pure (if ← keepsBack run restricted raw context then .hidden else .shown)) := by
  rw [standing, seen]
  simp only [Bool.false_eq_true, ↓reduceIte]
  congr
  funext found
  rcases found with _ | raw
  · rfl
  · simp only [keepsBack, bind_assoc]
    congr
    funext empty
    cases empty <;> cases restricted <;> simp

/-- The static strategy sees what the walk finds, **unless it is kept back**. -/
theorem staticFound?_eq (run : Runner) (restricted : Bool) (context : Value) (name : String)
    (seen : Strategy.refuses restricted name = false) :
    staticFound? run restricted context name = (do
      match ← walk? run context name with
      | none => pure none
      | some (raw, loose) =>
        pure (if ← keepsBack run restricted raw context then none else some (raw, loose))) := by
  rw [staticFound?, seen]
  simp only [Bool.false_eq_true, ↓reduceIte]
  congr
  funext found
  rcases found with _ | ⟨raw, loose⟩
  · rfl
  · simp only [keepsBack, bind_assoc]
    congr
    funext empty
    cases empty <;> cases restricted <;> simp

/-- By the static strategy a name is answered if the walk finds an entry that is **not kept
back**. -/
theorem staticRespondsTo_eq (run : Runner) (restricted : Bool) (context : Value) (name : String)
    (seen : Strategy.refuses restricted name = false) :
    Option.isSome <$> staticFound? run restricted context name = (do
      match ← walk? run context name with
      | none => pure false
      | some entry => not <$> keepsBack run restricted entry.1 context) := by
  rw [staticFound?_eq run restricted context name seen, map_bind]
  congr
  funext found
  rcases found with _ | ⟨raw, loose⟩
  · rfl
  · simp only [← bind_pure_comp, bind_assoc, pure_bind]
    congr
    funext kept
    cases kept <;> rfl

/-- What the static strategy gives is the entry that the walk finds, settled, **unless it is kept
back**. -/
theorem staticLookup_settled (run : Runner) (restricted : Bool) (context : Value) (name : String)
    (seen : Strategy.refuses restricted name = false) :
    staticLookup run restricted context name = (do
      match ← walk? run context name with
      | none => pure none
      | some entry =>
        if ← keepsBack run restricted entry.1 context then pure none
        else Value.known? <$> settle run context entry) := by
  rw [staticLookup, staticFound?_eq run restricted context name seen, bind_assoc]
  congr
  funext found
  rcases found with _ | ⟨raw, loose⟩
  · rfl
  · simp only [bind_assoc]
    congr
    funext kept
    cases kept <;> rfl

/-- An instance without hooks is **in view** for a name: its own table, those of its classes and
those of the class of the member under the name are what they tell about themselves, and the context
passes to no other value. -/
structure InView (run : Runner) (w : World) (context : Value) (name : String) : Prop where
  instance_ : w.isClass context = false
  apart : ∀ c, context ≠ .cls c
  unhooked : w.Unhooked context
  table : w.ShowsTable context
  accessible : w.Accessible (w.classOf context)
  line : ∀ d ∈ w.lineOf (w.classOf context), w.Legible d
  legible : ∀ raw, w.typeMember? (w.classOf context) name = some raw →
    ∀ d ∈ w.lineOf (w.classOf raw), w.Legible d
  binds : ∀ raw, w.typeMember? (w.classOf context) name = some raw → BindsAlike run w raw
  direct : w.used? context name = w.objectUsed? context name

namespace InView

variable (h : InView run w context name)
include h

/-- What the context holds is what is **seen** in its tables. -/
theorem held : (held? run context name).outcome w = (.ok (w.seen? context name), w) :=
  outcome_held? (.instance_ context h.apart h.table h.line h.legible)

/-- The walk finds the entry that **access uses**, unless it tells that there is nothing. -/
theorem walked : (walk? run context name).outcome w =
    (.ok ((w.used? context name).bind (·.found?)), w) := by
  have same : w.walked? context name = (w.objectUsed? context name).bind (·.found?) := by
    rw [World.walked?, World.listed?_of_instance h.apart]
    cases w.objectUsed? context name <;> rfl
  rw [h.direct, ← same]
  exact outcome_walk?_instance h.instance_ h.apart h.table h.accessible
    (fun d hd => (h.line d hd).toAccessible) fun raw hm => (h.binds raw hm).toTellsHooks

/-- Access gives **what its entry gives**. -/
theorem outcome_get {entry : TableEntry} (used : w.used? context name = some entry) :
    (Attribute.get run context name).outcome w = (entry.give run).outcome w := by
  refine outcome_get_of_used run h.unhooked ?_ used
  rintro i rfl
  -- The class of modules has a slot for the table, so a module that shows it has one.
  rcases h.table with ⟨bare, -⟩ | ⟨_, own, -, -, held⟩ | ⟨_, own, -, held⟩
  · rw [World.classOf, World.typeMember?_native] at bare
    cases bare
  · exact ⟨own, held⟩
  · exact ⟨own, held⟩

/-- What the walk finds is **settled** as the entry gives it. -/
theorem outcome_settle {entry : TableEntry} (used : w.used? context name = some entry) :
    (settle run context entry.walked).outcome w = (entry.give run).outcome w := by
  rw [h.direct] at used
  cases entry with
  | own x => rfl
  | member raw inst owner =>
      rw [World.objectUsed?] at used
      have member : w.typeMember? (w.classOf context) name = some raw ∧
          inst = some context ∧ owner = w.classOf context := by
        rcases hm : w.typeMember? (w.classOf context) name with _ | raw' <;>
          rcases ho : (w.ownAttrs? context).bind (·.find? name) with _ | x <;>
          simp only [hm, ho] at used
        · cases used
        · cases used
        · cases used
          exact ⟨rfl, rfl, rfl⟩
        · split at used <;> cases used
          exact ⟨rfl, rfl, rfl⟩
      obtain ⟨hm, rfl, rfl⟩ := member
      have bound := outcome_bindEntry (h.binds raw hm) context
      rw [World.boundTo_of_instance h.apart] at bound
      exact bound

/-- Where something is used something is selected, and **nothing is selected** where nothing is
used. -/
theorem selected_isSome : (w.selected? context name).isSome = (w.used? context name).isSome := by
  rw [World.selected?_of_instance h.apart, h.direct, World.selectedOf?_isSome,
    World.objectUsed?_isSome]

/-- An entry that is used and tells that there is nothing is **the one that is selected**. -/
theorem selected_of_missing {entry : TableEntry} (used : w.used? context name = some entry)
    (missing : entry.raw = .missing) : w.selected? context name = some .missing := by
  rcases World.selected_of_used used with same | ahead
  · rw [same, missing]
  · cases ahead with
    | outside => exact absurd rfl (h.apart _)
    | deleter _ _ reads =>
        obtain rfl := missing
        rw [World.controlsRead_missing] at reads
        cases reads
    | passed bare there =>
        -- A bound method in view holds what it passes to itself, and its class holds nothing.
        rw [h.direct, World.objectUsed?, World.classOf, bare] at used
        cases used

end InView

end Lookup

/-! ### The two strategies -/

namespace Strategy

open Lookup

variable {run : Runner} {restricted : Bool} {context : Value} {name : String} {w : World}

section Agree

variable (view : InView run w context name)
include view

/-- Where what is seen tells that there is nothing, and access uses the same entry, the dynamic
strategy answers and the static one does not; **neither gives anything**. -/
theorem static_hollow (seen : refuses restricted name = false) {entry : TableEntry}
    (used : w.used? context name = some entry) (missing : entry.raw = .missing) :
    ((static restricted).respondsTo run context name).outcome w = (.ok false, w) ∧
      ((dynamic restricted).respondsTo run context name).outcome w = (.ok true, w) ∧
      ((static restricted).lookup run context name).outcome w = (.ok none, w) ∧
      ((dynamic restricted).lookup run context name).outcome w = (.ok none, w) := by
  have unseen : w.seen? context name = none := by
    rw [World.seen?, view.selected_of_missing used missing]
    rfl
  have walked : (Attribute.walk? run context name).outcome w = (.ok none, w) := by
    rw [view.walked, used, Option.bind_some, TableEntry.found?_of_missing missing]
  have fetched : (Attribute.get? run context name).outcome w = (.ok (some .missing), w) := by
    rw [Attribute.get?, Run.outcome_optional,
      (view.outcome_get used).trans (Attribute.outcome_give_plain run (.inr rfl) missing)]
  have held := view.held
  rw [unseen] at held
  refine ⟨?_, ?_, ?_, ?_⟩
  · rw [respondsTo, staticRespondsTo_eq run restricted context name seen,
      Run.outcome_bind_of_ok walked]
    rfl
  · rw [respondsTo, dynamicRespondsTo, seen]
    simp only [Bool.false_eq_true, ↓reduceIte]
    rw [Run.outcome_bind_of_ok held]
    simp only [Attribute.has, Run.outcome_map, fetched, Option.isSome_some]
  · rw [lookup, staticLookup_settled run restricted context name seen,
      Run.outcome_bind_of_ok walked]
    rfl
  · rw [lookup, dynamicLookup, seen]
    simp only [Bool.false_eq_true, ↓reduceIte]
    rw [Run.outcome_bind_of_ok held]
    simp only [Run.outcome_map, fetched]
    rfl

/-- Where access has no entry to use, the tables list nothing, and **both strategies miss** the
name. -/
theorem static_bare (seen : refuses restricted name = false)
    (used : w.used? context name = none) :
    w.selected? context name = none ∧
      ((static restricted).respondsTo run context name).outcome w = (.ok false, w) ∧
      ((dynamic restricted).respondsTo run context name).outcome w = (.ok false, w) ∧
      ((static restricted).lookup run context name).outcome w = (.ok none, w) ∧
      ((dynamic restricted).lookup run context name).outcome w = (.ok none, w) := by
  have nothing : w.selected? context name = none := by
    have same := view.selected_isSome
    rw [used] at same
    exact Option.not_isSome_iff_eq_none.1 (by simp [same])
  have unseen : w.seen? context name = none := by rw [World.seen?, nothing, Option.bind_none]
  have missing : (Attribute.get? run context name).outcome w = (.ok none, w) :=
    Attribute.outcome_get?_of_unused view.unhooked used
  have held := view.held
  have walked := view.walked
  rw [unseen] at held
  rw [used, Option.bind_none] at walked
  refine ⟨nothing, ?_, ?_, ?_, ?_⟩
  · rw [respondsTo, staticRespondsTo_eq run restricted context name seen,
      Run.outcome_bind_of_ok walked]
    rfl
  · rw [respondsTo, dynamicRespondsTo, seen]
    simp only [Bool.false_eq_true, ↓reduceIte]
    rw [Run.outcome_bind_of_ok held]
    simp only [Attribute.has, Run.outcome_map, missing, Option.isSome_none]
  · rw [lookup, staticLookup_settled run restricted context name seen,
      Run.outcome_bind_of_ok walked]
    rfl
  · rw [lookup, dynamicLookup, seen]
    simp only [Bool.false_eq_true, ↓reduceIte]
    rw [Run.outcome_bind_of_ok held]
    simp only [Run.outcome_map, missing]
    rfl

/-- The standing of what is seen is that of the entry that **access uses**, if both are kept back
alike. -/
theorem standing_of_used (seen : refuses restricted name = false) {raw : Value}
    {entry : TableEntry} (shown : w.seen? context name = some raw)
    (tested : (keepsBack run restricted entry.raw context).outcome w =
      (keepsBack run restricted raw context).outcome w) :
    (standing run restricted context name).outcome w = (do
      pure (if ← keepsBack run restricted entry.raw context then .hidden else .shown) :
        Run Standing).outcome w := by
  have held := view.held
  rw [shown] at held
  rw [standing_eq run restricted context name seen, Run.outcome_bind_of_ok held,
    Run.outcome_bind, Run.outcome_bind, tested]

/-- Where access uses an entry that is tested like the one that is seen, both strategies **answer
alike**, and give alike if testing leaves the entry in view. -/
theorem static_shown (seen : refuses restricted name = false) {raw : Value} {entry : TableEntry}
    (used : w.used? context name = some entry) (known : entry.raw ≠ .missing)
    (shown : w.seen? context name = some raw)
    (tested : (keepsBack run restricted entry.raw context).outcome w =
      (keepsBack run restricted raw context).outcome w)
    (steady : ∀ w₁, (keepsBack run restricted entry.raw context).outcome w = (.ok false, w₁) →
      InView run w₁ context name ∧ w₁.used? context name = some entry) :
    ((static restricted).respondsTo run context name).outcome w =
      ((dynamic restricted).respondsTo run context name).outcome w ∧
    ((static restricted).lookup run context name).outcome w =
      ((dynamic restricted).lookup run context name).outcome w := by
  have walked := view.walked
  rw [used, Option.bind_some, TableEntry.found?_of_known known] at walked
  have standing := standing_of_used view seen shown tested
  refine ⟨?answers, ?gives⟩
  case answers =>
    rw [respondsTo, respondsTo, staticRespondsTo_eq run restricted context name seen,
      Run.outcome_bind_of_ok walked]
    simp only [entry.walked_raw]
    rw [dynamicRespondsTo_eq, Run.outcome_bind, standing, Run.outcome_bind, Run.outcome_map]
    rcases (keepsBack run restricted entry.raw context).outcome w with ⟨f | _ | _, w₁⟩ <;> rfl
  case gives =>
    rw [lookup, lookup, staticLookup_settled run restricted context name seen,
      Run.outcome_bind_of_ok walked]
    simp only [entry.walked_raw]
    rw [dynamicLookup_eq, dynamicFetch, Run.outcome_map, Run.outcome_bind, Run.outcome_bind,
      standing, Run.outcome_bind]
    rcases kept : (keepsBack run restricted entry.raw context).outcome w with ⟨f | _ | _, w₁⟩
    · rfl
    · -- The entry is shown: it is settled as access gives it.
      obtain ⟨view₁, used₁⟩ := steady w₁ kept
      have settled := view₁.outcome_settle used₁
      have fetched := view₁.outcome_get used₁
      simp only [Bool.false_eq_true, ↓reduceIte, Run.outcome_pure, fetchedOf, Run.outcome_map,
        settled, fetched]
      rcases (entry.give run).outcome w₁ with ⟨f | m, w₂⟩ <;> rfl
    · rfl

end Agree

/-- A world with a computed member: an object of `Part`, which computes `x` and is asked for it. -/
def computing : World :=
  { World.empty with
    classes := #[plainClass 0 "Part" [("x", .property (some 0) none (some "x"))]]
    objects := #[plainObject "part" 0 [("y", .int 1)]]
    functions := #[plainFunction "Part.x" (.body "Part.x" (.ret (.int 2)))] }

/-- A world in which the two strategies part. `Part` holds a marked `x` that can be read and
deleted, beside which an object holds one of its own, and another what tells that there is nothing;
`Odd` puts a number in the place of the tables
of its objects; the metaclass of `Guarded` puts nothing in the place of its line. `Held` holds three
objects: the class of the first has a reader by its metaclass, that of the second as a class method,
and that of the third tells itself by code that gives `held` an attribute of its own. -/
def straying : World :=
  { World.empty with
    classes := #[plainClass 0 "Part" [("x", .object 0)], plainClass 1 "Odd" [("__dict__", .int 0)],
      plainMetaclass 2 "Meta" [("__mro__", .tuple [])],
      { plainClass 3 "Guarded" [("x", .int 1)] with metaclass := .world 2 },
      plainMetaclass 4 "ReaderMeta" [("__get__", .fn 0)],
      { plainClass 5 "Read" [] with metaclass := .world 4 },
      plainClass 6 "Held" [("x", .object 4), ("y", .object 5), ("z", .object 6)],
      plainClass 7 "Reader" [("__get__", .classMethod (.fn 0))],
      plainClass 8 "Meddler" [("__class__", .property (some 1) none (some "__class__"))]]
    objects := #[
      ⟨none, .native (.descriptor true false true), some [(restrictedMark, .bool true)], [],
        .descriptor "Part.x" (some (.ret (.int 3)))⟩,
      plainObject "part" 0 [("x", .int 1)], plainObject "odd" 1 [("x", .int 1)],
      plainObject "guarded" 3 [], plainObject "read" 5 [], plainObject "reader" 7 [],
      plainObject "meddler" 8 [], plainObject "held" 6 [], plainObject "hollow" 0 [("x", .missing)]]
    functions := #[plainFunction "read" (.silent (.ret (.int 7))),
      plainFunction "meddle" (.script [.perform (.setAttr (.object "held") "z" (.int 1))]),
      ⟨"f", some worldHome, .silent .echo, [], [("x", .int 1)]⟩] }

end Strategy

end OrderedScope
