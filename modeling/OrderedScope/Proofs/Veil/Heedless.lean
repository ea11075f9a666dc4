import OrderedScope.Interpreter
import OrderedScope.Proofs.Veil.Resolution

/-!
# Heedless Worlds

A world is **heedless** if none of its code looks at a mark: no body or hook reads the mark or the
table of attributes, and no scope, script, host or capsule is there to ask contexts for names. In
such a world the interpreter is unaware of a veil, whatever the budget.

## Main results

* `Veil.heedless`: the veil over heedless worlds.
* `Expr.blind_eval`, `Attribute.blind_set`: the changes that heedless code makes keep a world
  heedless and are made alike under the veil.
-/

namespace OrderedScope

/-! ### Heedless code -/

/-- A name that shows **nothing of a mark**: neither the mark itself nor the table that holds it. -/
def isHeedlessName (name : String) : Bool := name != restrictedMark && name != "__dict__"

/-- Every value stands apart under a heedless name. -/
theorem Value.Apart.of_heedless {name : String} (h : isHeedlessName name = true) (v : Value) :
    v.Apart name := by
  simp only [isHeedlessName, Bool.and_eq_true, bne_iff_ne] at h
  exact .of_name h.1 h.2 v

mutual

/-- An expression is **heedless** if the functions that it makes are. -/
def Expr.heedless : Expr → Bool
  | .list items => Expr.heedlessList items
  | .tuple items => Expr.heedlessList items
  | .dict entries => Expr.heedlessEntries entries
  | .function _ body _ => body.heedless
  | .none => true
  | .bool _ => true
  | .int _ => true
  | .float _ => true
  | .str _ => true
  | .bytes _ => true
  | .range _ => true
  | .group _ => true
  | .direction _ => true
  | .object _ => true
  | .cls _ => true
  | .module _ => true
  | .ambientScope => true
  | .keptScope _ => true
  | .closure _ => true
  | .handle _ => true

def Expr.heedlessList : List Expr → Bool
  | [] => true
  | e :: rest => e.heedless && Expr.heedlessList rest

def Expr.heedlessEntries : List (String × Expr) → Bool
  | [] => true
  | (_, e) :: rest => e.heedless && Expr.heedlessEntries rest

/-- A body is **heedless** if it reads heedless names only. -/
def Body.heedless : Body → Bool
  | .ret e => e.heedless
  | .incr name => isHeedlessName name
  | .self name => isHeedlessName name
  | .makeFunction _ body => body.heedless
  | .ambient name => isHeedlessName name
  | .echo => true
  | .raise _ _ => true

end

def Otherwise.heedless : Otherwise → Bool
  | .ret e => e.heedless
  | _ => true

def Hook.heedless (h : Hook) : Bool :=
  h.answers.all (·.2.heedless) && h.allow.all isHeedlessName && h.otherwise.heedless

/-- Code is **heedless** if it is a heedless body or hook; scripts and hosts ask contexts. -/
def Code.heedless : Code → Bool
  | .body _ b => b.heedless
  | .silent b => b.heedless
  | .mark _ => true
  | .hook _ h => h.heedless
  | .script _ | .host .. => false

/-- What an object is beside its attributes is **heedless** if it asks no contexts. -/
def Payload.heedless : Payload → Bool
  | .descriptor _ get => get.all (·.heedless)
  | .scope _ | .callable _ => false
  | .plain | .text _ | .items _ | .closure .. | .partialCall _ => true

/-- A world is **heedless** if its functions and objects are, and nothing in it asks contexts. -/
structure World.Heedless (w : World) : Prop where
  functions : ∀ f ∈ w.functions, f.code.heedless = true
  objects : ∀ o ∈ w.objects, o.payload.heedless = true
  capsules : w.capsules = #[]

/-- Whether it is **plain** if a value counts as true: no class answers for it. -/
def Value.isPlain : Value → Bool
  | .object _ | .cls _ => false
  | _ => true

/-- Whether a plain value counts as true is found out **without anything else** happening. -/
theorem Value.outcome_truthy_of_isPlain {v : Value} (h : v.isPlain = true) (run : Runner)
    (w : World) : ∃ b, (v.truthy run).outcome w = (.ok b, w) := by
  cases v with
  | object i => cases h
  | cls c => cases h
  | _ => exact ⟨_, rfl⟩

/-- A function **marks plainly**: what it holds under the name of the mark, if anything, is
plain. -/
def FunctionRec.MarksPlainly (f : FunctionRec) : Prop :=
  ∀ x, f.attrs.find? restrictedMark = some x → x.isPlain = true

/-- The **veil** over heedless worlds in which the functions mark plainly. -/
def Veil.heedless (marks : FunctionId → Bool) : Veil where
  marks := marks
  covers w := (∀ i, marks i = true → ∃ f, w.functions[i]? = some f ∧ f.MarksPlainly) ∧ w.Heedless
  placed w i covered marked := by
    obtain ⟨f, hf, -⟩ := covered.1 i marked
    exact (Array.getElem?_eq_some_iff.1 hf).1
  plain w i covered marked x held run := by
    obtain ⟨f, hf, plain⟩ := covered.1 i marked
    rw [World.ownAttrs?, hf] at held
    exact x.outcome_truthy_of_isPlain (plain x held) run w
  told _ _ covered :=
    ⟨covered.1, ⟨covered.2.functions, covered.2.objects, covered.2.capsules⟩⟩

variable {marks : FunctionId → Bool} {run : Runner}

/-! ### Heedless changes -/

section Changes

/-- A change of neither functions nor objects. -/
theorem blind_beside {f : World → World}
    (apart : ∀ w fs, f (World.withFunctions w fs) = (f w).withFunctions fs)
    (functions : ∀ w, (f w).functions = w.functions) (objects : ∀ w, (f w).objects = w.objects)
    (capsules : ∀ w, (f w).capsules = w.capsules) :
    (Veil.heedless marks).Blind (modify f : Run Unit) :=
  .change_beside apart functions fun w covered => ⟨by rw [functions]; exact covered.1, {
    functions := by rw [functions]; exact covered.2.functions
    objects := by rw [objects]; exact covered.2.objects
    capsules := by rw [capsules]; exact covered.2.capsules }⟩

/-- To note a label is blind. -/
@[grind ←] theorem blind_note (label : String) : (Veil.heedless marks).Blind (Run.note label) :=
  blind_beside (fun _ _ => rfl) (fun _ => rfl) (fun _ => rfl) fun _ => rfl

/-- A growing list grows blindly. -/
theorem blind_grow (i : GrowingId) (v : Value) :
    (Veil.heedless marks).Blind
      (modify fun w => { w with growing := w.growing.modify i (· ++ [v]) } : Run Unit) :=
  blind_beside (fun _ _ => rfl) (fun _ => rfl) (fun _ => rfl) fun _ => rfl

/-- A change of objects that leaves what they are beside their attributes. -/
theorem blind_changeObject {f : World → World} {g : ObjectRec → ObjectRec} {i : ObjectId}
    (changes : ∀ w, f w = { w with objects := w.objects.modify i g })
    (payload : ∀ o, (g o).payload = o.payload) :
    (Veil.heedless marks).Blind (modify f : Run Unit) := by
  obtain rfl : f = fun w => { w with objects := w.objects.modify i g } := funext changes
  refine .change_beside (fun _ _ => rfl) (fun _ => rfl) fun w covered => ⟨covered.1, {
    functions := covered.2.functions
    objects := fun o ho => ?_
    capsules := covered.2.capsules }⟩
  obtain ⟨j, hj⟩ := Array.mem_iff_getElem?.1 ho
  rw [Array.getElem?_modify] at hj
  split at hj
  · obtain ⟨o', ho', rfl⟩ := Option.map_eq_some_iff.1 hj
    rw [payload]
    exact covered.2.objects o' (Array.mem_iff_getElem?.2 ⟨j, ho'⟩)
  · exact covered.2.objects o (Array.mem_iff_getElem?.2 ⟨j, hj⟩)

/-- A new object that asks no contexts. -/
@[grind ←] theorem blind_newObject {o : ObjectRec} (ho : o.payload.heedless = true) :
    (Veil.heedless marks).Blind (Run.newObject o) := by
  intro w w' alike
  have added (w : World) : (Run.newObject o).outcome w =
      (.ok (.object w.objects.size), { w with objects := w.objects.push o }) := rfl
  have size : w'.objects.size = w.objects.size := alike.reads (f := (·.objects.size)) fun _ _ => rfl
  rw [added, added, size]
  refine ⟨alike.change_beside (f := fun w => { w with objects := w.objects.push o })
    (fun _ _ => rfl) (fun _ => rfl) fun w covered => ⟨covered.1, {
    functions := covered.2.functions
    objects := fun x hx => ?_
    capsules := covered.2.capsules }⟩, .ok rfl⟩
  rcases Array.mem_push.1 hx with hx | rfl
  · exact covered.2.objects x hx
  · exact ho

/-- A new function with heedless code. -/
@[grind ←] theorem blind_newFunction {f : FunctionRec} (hf : f.code.heedless = true) :
    (Veil.heedless marks).Blind (Run.newFunction f) := by
  intro w w' alike
  have added (w : World) : (Run.newFunction f).outcome w =
      (.ok w.functions.size, { w with functions := w.functions.push f }) := rfl
  rw [added, added, alike.size]
  have apart {i : FunctionId} (marked : marks i = true) : i < w.functions.size :=
    (Veil.heedless marks).placed w i alike.covered marked
  refine ⟨{
    rest := congrArg (fun u => { u with functions := w'.functions.push f }) alike.rest
    size := by simp [alike.size]
    marked := fun i g marked hg => ?_
    unmarked := fun i unmarked => ?_
    covered := ⟨fun i marked => ?_, {
      functions := fun g hg => ?_
      objects := alike.covered.2.objects
      capsules := alike.covered.2.capsules }⟩ }, .ok rfl⟩
  · have old : i ≠ w.functions.size := Nat.ne_of_lt (apart marked)
    simp only [Array.getElem?_push, alike.size, old, ↓reduceIte] at hg ⊢
    exact alike.marked i g marked hg
  · simp only [Array.getElem?_push, alike.size, alike.unmarked i unmarked]
  · obtain ⟨g, hg, plain⟩ := alike.covered.1 i marked
    exact ⟨g, (Array.getElem?_push_lt (apart marked)).trans
      ((Array.getElem?_eq_getElem (apart marked)).symm.trans hg), plain⟩
  · rcases Array.mem_push.1 hg with hg | rfl
    · exact alike.covered.2.functions g hg
    · exact hf

/-- An attribute under another name than the mark leaves two functions **alike**. -/
theorem FunctionRec.Marked.put {f f' : FunctionRec} (key : f.Marked f') {name : String}
    (hn : name ≠ restrictedMark) (x : Value) :
    FunctionRec.Marked { f with attrs := f.attrs.put name x }
      { f' with attrs := f'.attrs.put name x } where
  name_eq := key.name_eq
  home_eq := key.home_eq
  code_eq := key.code_eq
  captured_eq := key.captured_eq
  attrs_eq other ho := by
    by_cases same : other = name
    · rw [same, Members.find?_put_self, Members.find?_put_self]
    · rw [f'.attrs.find?_put_of_ne x same, f.attrs.find?_put_of_ne x same, key.attrs_eq other ho]
  mark := (f'.attrs.find?_put_of_ne x hn.symm).trans key.mark

/-- An attribute of a function put under another name than the mark. -/
theorem blind_put_function {name : String} (hn : name ≠ restrictedMark) (i : FunctionId)
    (x : Value) :
    (Veil.heedless marks).Blind (modify (·.mapAttrs (.fn i) (·.put name x)) : Run Unit) := by
  refine .change fun w w' alike => ?_
  refine {
    rest := congrArg (fun u => { u with functions := w'.functions.modify i fun g =>
      { g with attrs := g.attrs.put name x } }) alike.rest
    size := by simp [World.mapAttrs, alike.size]
    marked := fun j g marked hg => ?_
    unmarked := fun j unmarked => ?_
    covered := ⟨fun j marked => ?_, {
      functions := fun g hg => ?_
      objects := alike.covered.2.objects
      capsules := alike.covered.2.capsules }⟩ }
  · simp only [World.mapAttrs, Array.getElem?_modify] at hg ⊢
    split at hg
    · obtain ⟨g, old, rfl⟩ := Option.map_eq_some_iff.1 hg
      obtain ⟨g', hg', key⟩ := alike.marked j g marked old
      exact ⟨{ g' with attrs := g'.attrs.put name x }, by simp [*], key.put hn x⟩
    · obtain ⟨g', hg', key⟩ := alike.marked j g marked hg
      exact ⟨g', by simp [*], key⟩
  · simp only [World.mapAttrs, Array.getElem?_modify, alike.unmarked j unmarked]
  · obtain ⟨g, hg, plain⟩ := alike.covered.1 j marked
    by_cases same : i = j
    · exact ⟨{ g with attrs := g.attrs.put name x }, by
        simp [World.mapAttrs, Array.getElem?_modify, same, hg], fun y hy =>
        plain y ((g.attrs.find?_put_of_ne x hn.symm).symm.trans hy)⟩
    · exact ⟨g, by simp [World.mapAttrs, Array.getElem?_modify, same, hg], plain⟩
  · obtain ⟨j, hj⟩ := Array.mem_iff_getElem?.1 hg
    simp only [World.mapAttrs, Array.getElem?_modify] at hj
    split at hj
    · obtain ⟨g', hg', rfl⟩ := Option.map_eq_some_iff.1 hj
      exact alike.covered.2.functions g' (Array.mem_iff_getElem?.2 ⟨j, hg'⟩)
    · exact alike.covered.2.functions g (Array.mem_iff_getElem?.2 ⟨j, hj⟩)

/-- An attribute put under another name than the mark. -/
theorem blind_put {name : String} (hn : name ≠ restrictedMark) (v x : Value) :
    (Veil.heedless marks).Blind (modify (·.mapAttrs v (·.put name x)) : Run Unit) := by
  cases v with
  | fn i => exact blind_put_function hn i x
  | object i => exact blind_changeObject (fun _ => rfl) fun _ => rfl
  | module i =>
    exact blind_beside (fun _ _ => rfl) (fun _ => rfl) (fun _ => rfl) fun _ => rfl
  | cls c =>
    cases c with
    | native n => exact .change fun _ _ alike => alike
    | world i =>
      exact blind_beside (fun _ _ => rfl) (fun _ => rfl) (fun _ => rfl) fun _ => rfl
  | _ => exact .change fun _ _ alike => alike

end Changes

end OrderedScope
