import OrderedScope.Interpreter

/-!
# Small Worlds

What a single run does in a small world shows where a general statement ends. This module has the
parts of such worlds, classes and objects as a session builds them, and a comparison of the end of
a run with an expected one that can be computed.

## Main results

* `Run.eq_of_toOption`, `Run.eq_of_gave`, `Run.eq_of_failed`: an end that compares equal is the
  expected one.
-/

namespace OrderedScope

/-! ### Parts of worlds -/

/-- A **class** of a world, at its place, whose instances hold attributes of their own. -/
def plainClass (i : Nat) (name : String) (members : Members) : ClassRec where
  name := name
  home := worldHome
  metaclass := .native .type
  line := [.world i, .native .object]
  bases := [.native .object]
  members := [("__module__", .str worldHome)] ++ members ++
    [("__dict__", .nativeMember (.world i) .getset "__dict__"),
      ("__weakref__", .nativeMember (.world i) .getset "__weakref__"), ("__doc__", .none)]
  open? := true

/-- A **class of texts** of a world, at its place. -/
def textClass (i : Nat) (name : String) (members : Members) : ClassRec where
  name := name
  home := worldHome
  metaclass := .native .type
  line := [.world i, .native .str, .native .object]
  bases := [.native .str]
  members := [("__module__", .str worldHome)] ++ members ++ [("__doc__", .none)]
  open? := true

/-- A **metaclass** of a world, at its place. -/
def plainMetaclass (i : Nat) (name : String) (members : Members) : ClassRec where
  name := name
  home := worldHome
  metaclass := .native .type
  line := [.world i, .native .type, .native .object]
  bases := [.native .type]
  members := [("__module__", .str worldHome)] ++ members ++ [("__doc__", .none)]
  open? := true

/-- An **object** of the class at a place, with its attributes. -/
def plainObject (id : String) (i : Nat) (attrs : Members) : ObjectRec :=
  ⟨some id, .world i, some attrs, [], .plain⟩

/-- A **function** of a world. -/
def plainFunction (name : String) (code : Code) : FunctionRec :=
  ⟨name, some worldHome, code, [], []⟩

/-- A world with one object that **has no text**: its class fails when it is to be shown. -/
def World.mute : World :=
  { World.empty with
    functions := #[plainFunction "__repr__" (.body "Mute.__repr__" (.raise .runtime "no text"))]
    classes := #[plainClass 0 "Mute" [("__repr__", .fn 0)]]
    objects := #[plainObject "mute" 0 []] }

/-- An ordinary error that **cannot be put into words** there: the key of no item is that object. -/
def Error.wordless : Error := .noItem (.object 0)

/-- A world with one module, which holds the object that **tells that there is nothing**. -/
def World.hollow : World :=
  { World.empty with modules := World.empty.modules.push ⟨"lookups", [("MISSING", .missing)]⟩ }

namespace Run

variable {α : Type}

/-! ### Comparing -/

/-- An outcome that was evaluated to a gift **is that gift**. -/
theorem eq_of_toOption {o : Except Fault α × World} {a : α} (h : o.1.toOption = some a) :
    o = (.ok a, o.2) := by
  obtain ⟨_ | b, w⟩ := o
  · cases h
  · cases h
    rfl

/-- Whether a run **gave** a certain object, module or whole number. -/
def gave : Value → Except Fault Value × World → Bool
  | .object i, (.ok (.object j), _) => i == j
  | .module i, (.ok (.module j), _) => i == j
  | .int m, (.ok (.int n), _) => m == n
  | _, _ => false

/-- An outcome that was evaluated to a value is that value. -/
theorem eq_of_gave {v : Value} {o : Except Fault Value × World} (h : gave v o = true) :
    o = (.ok v, o.2) := by
  rw [gave.eq_def] at h
  split at h
  · rw [eq_of_beq h]
  · rw [eq_of_beq h]
  · rw [eq_of_beq h]
  · cases h

/-- Whether a question was **answered** with a certain object or whole number, or with nothing. -/
def answered : Option Value → Except Fault (Option Value) × World → Bool
  | none, (.ok none, _) => true
  | some v, (.ok (some x), w) => gave v (.ok x, w)
  | _, _ => false

/-- An outcome that was evaluated to an answer is that answer. -/
theorem eq_of_answered {v : Option Value} {o : Except Fault (Option Value) × World}
    (h : answered v o = true) : o = (.ok v, o.2) := by
  rw [answered.eq_def] at h
  split at h
  · rfl
  · rename_i v x w
    have same := congrArg Prod.fst (eq_of_gave h)
    simp only [Except.ok.injEq] at same
    rw [same]
  · cases h

/-- An outcome that was evaluated to some gift is one. -/
theorem eq_of_toOption_isSome {o : Except Fault α × World} (h : o.1.toOption.isSome = true) :
    ∃ a, o = (.ok a, o.2) := by
  obtain ⟨_ | a, w⟩ := o
  · cases h
  · exact ⟨a, rfl⟩

/-- An outcome that was evaluated to no gift is a fault. -/
theorem eq_of_toOption_isNone {o : Except Fault α × World} (h : o.1.toOption.isNone = true) :
    ∃ f, o = (.error f, o.2) := by
  obtain ⟨f | a, w⟩ := o
  · exact ⟨f, rfl⟩
  · cases h

/-- Whether a run **failed** with a certain error: one that code raised on purpose, that of a name
that nobody answers, or that of an attribute that an object lacks. -/
def failed {α : Type} : Error → Except Fault α × World → Bool
  | .raised k text, (.error (.raised (.raised k' text')), _) => k == k' && text == text'
  | .unresolved name d v, (.error (.raised (.unresolved name' d' v')), _) =>
    name == name' && d == d' && v == v'
  | .noAttribute c name, (.error (.raised (.noAttribute c' name')), _) => c == c' && name == name'
  | _, _ => false

/-- An outcome that was evaluated to an error **is that error**. -/
theorem eq_of_failed {e : Error} {o : Except Fault α × World} (h : failed e o = true) :
    o = (.error (.raised e), o.2) := by
  rw [failed.eq_def] at h
  split at h
  · obtain ⟨hk, ht⟩ := Bool.and_eq_true_iff.1 h
    rw [eq_of_beq hk, eq_of_beq ht]
  · obtain ⟨h, hv⟩ := Bool.and_eq_true_iff.1 h
    obtain ⟨hn, hd⟩ := Bool.and_eq_true_iff.1 h
    rw [eq_of_beq hn, eq_of_beq hd, eq_of_beq hv]
  · obtain ⟨hc, hn⟩ := Bool.and_eq_true_iff.1 h
    rw [eq_of_beq hc, eq_of_beq hn]
  · cases h

end Run

end OrderedScope
