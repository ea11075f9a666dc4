import OrderedScope.Label

/-!
# Reports

Values, errors and plain documents as they look from outside. Entities are named: an object of the
world by its id, what the library made by its text, and anything else by its class. The attributes
of a namespace that has no id are reported with it, to any depth that the world can hold.
-/

namespace OrderedScope

namespace Report

/-- A text that may be missing. -/
def optional (s : Option String) : Report := s.elim null str

/-- The names of a list, as texts. -/
def texts (names : List String) : Report := list (names.map str)

/-- The report of a class: of the world, of the kernel module, or another one. -/
def ofClass (w : World) (c : ClassRef) : Report :=
  match c with
  | .world _ => if w.homeOf c == "world" then .worldClass (w.className c)
      else .otherClass (w.className c)
  | .native n => if n.isBuiltin then .builtin n.name else .otherClass n.name

/-- The report of an object; what it holds is reported by `inner`. -/
def ofObject (run : Runner) (inner : Value → Run Report) (i : ObjectId) : Run Report := do
  let w ← get
  let v := Value.object i
  match w.objects[i]? with
  | none => pure .missing
  | some o =>
    match o.id, o.payload with
    | some id, _ => pure (.object id)
    | none, .descriptor label _ => pure (.descriptor label)
    | none, .scope _ => Report.scope <$> Label.standardText run [] v
    | none, _ =>
      if o.cls = .native .space then
        Report.space <$> (o.attrs.getD []).mapM fun (name, x) => do pure (name, ← inner x)
      else pure (.other (w.className o.cls))

mutual

/-- The report of a value whose parts held by entities are reported by `inner`. -/
def ofValueWith (run : Runner) (inner : Value → Run Report) : Value → Run Report
  | .none => pure .null
  | .bool b => pure (.bool b)
  | .int n => pure (.int n)
  | .float x => pure (.float x)
  | .str s => pure (.str s)
  | .bytes s => pure (.bytes s)
  | .list items => Report.list <$> ofItems run inner items
  | .tuple items => Report.tuple <$> ofItems run inner items
  | .dict entries => Report.dict <$> ofEntries run inner entries
  | .group g => pure (.group g)
  | .direction entries =>
    pure ((Value.groups? entries).elim (.other "Direction") fun groups =>
      .direction (lettersOf groups))
  | .object i => ofObject run inner i
  | .cls c => Run.reading (ofClass · c)
  | .module i => Run.reading fun w => .module ((w.modules[i]?).elim "" (·.name))
  | .fn i => Run.reading fun w => .function (w.functionName i)
  | .libFn f => pure (.function f.name)
  | .bound f self => do
    let name ← Run.reading (Label.boundName · f)
    pure (.bound name (← ofValueWith run inner self))
  | .property getter _ _ => Run.reading fun w => .property (getter.map w.functionName)
  | .slot _ name => pure (.slot name)
  | .nativeFn name => pure (.builtin name)
  | .nativeMethod name _ => pure (.builtin name)
  | .growing i => do
    Report.list <$> (← Run.reading fun w => (w.growing[i]?).getD []).mapM inner
  | .resolver i => do
    pure (.resolver ((← Run.reading fun w => (w.resolvers[i]?).map Label.resolverText).getD ""))
  | .capsule i => Report.capsule <$> Label.standardText run [] (.capsule i)
  | .missing => pure .missing
  | .report r => pure r
  | .nativeMember _ .slot name => pure (.slot name)
  | v => Run.reading fun w => .other (w.className (w.classOf v))

/-- The reports of some values, in order. -/
def ofItems (run : Runner) (inner : Value → Run Report) : List Value → Run (List Report)
  | [] => pure []
  | v :: rest => do
    let r ← ofValueWith run inner v
    pure (r :: (← ofItems run inner rest))

/-- The reports of named values, in order. -/
def ofEntries (run : Runner) (inner : Value → Run Report) :
    List (String × Value) → Run (List (String × Report))
  | [] => pure []
  | (name, v) :: rest => do
    let r ← ofValueWith run inner v
    pure ((name, r) :: (← ofEntries run inner rest))

end

/-- The report of a value, through a given number of entities that hold each other. -/
def ofValueTo (run : Runner) : Nat → Value → Run Report
  | 0 => ofValueWith run fun _ => pure .missing
  | depth + 1 => ofValueWith run (ofValueTo run depth)

/-- The **report** of a value. -/
def ofValue (run : Runner) (v : Value) : Run Report := do
  ofValueTo run (← Run.reading fun w => w.objects.size + w.growing.size) v

/-- The reports of some values. -/
def ofValues (run : Runner) (vs : List Value) : Run Report := list <$> vs.mapM (ofValue run)

/-- A value of a plain document as it stands there. -/
def plain : Value → Report
  | .none => .null
  | .bool b => .bool b
  | .int n => .int n
  | .float x => .number x
  | .str s => .str s
  | .list items => .list (items.attach.map fun ⟨v, _⟩ => plain v)
  | .dict entries => .record (entries.attach.map fun ⟨(name, v), _⟩ => (name, plain v))
  | _ => .missing
termination_by v => sizeOf v
decreasing_by
  · have := List.sizeOf_lt_of_mem ‹_›
    simp; omega
  · have h := List.sizeOf_lt_of_mem ‹(name, v) ∈ entries›
    simp at h ⊢; omega

end Report

/-- What an error says beside its kind and its message. -/
def Error.details (run : Runner) : Error → Run (List (String × Report))
  | .unresolved name d v =>
    pure [("name", .str name), ("direction", .optional d), ("visibility", .optional v)]
  | .raised .unresolved text =>
    pure [("name", .str text), ("direction", .null), ("visibility", .null)]
  | .badDirection given _ => do pure [("value", ← Report.ofValue run given)]
  | .raised .direction text => pure [("value", .str text)]
  | _ => pure []

/-- The **report** of an error: its kind, its message and its details. -/
def Error.report (run : Runner) (e : Error) : Run Report := do
  let message ← match e with
    | .malformedDocument => pure []
    | _ => do pure [("message", Report.str (← e.text run))]
  pure (.record ([("error", .str e.kind.className)] ++ message ++ (← e.details run)))

/-- The report of what a run gives, or of the error it ends with. -/
def Run.reportAttempt (run : Runner) (x : Run Report) : Run Report := do
  match ← Run.attempt x with
  | .ok r => pure r
  | .error e => e.report run

end OrderedScope
