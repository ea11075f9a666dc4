import OrderedScope.Proofs.Exposure
import OrderedScope.Proofs.Veil.Interpreter

/-!
# What Marking Hides

To restrict members of a world lays a veil over it: the functions that hold their marks are marked,
and nothing else changes. A private resolver does not look at marks. A public one finds fewer
contexts that answer, so its winner can only move back, and only from a context whose member was
marked.

All this holds as long as the code that the questions run is itself unaware of the marks. Code that
looks at them, or asks a public scope, can hand on what it sees there.

## Main results

* `World.restrictAll_alike`: to restrict members marks their functions, and nothing else.
* `Resolver.marking_hides`: what marking members hides, and from whom.
* `Resolver.marking_seen`: code that asks a public scope hands on to a private resolver what it
  sees.
-/

namespace OrderedScope

/-! ### Marking -/

/-- The **function that holds the mark** of a member: the member itself, or the function that it
wraps. -/
def Value.wrapped? : Value → Option FunctionId
  | .fn f | .staticMethod f | .classMethod (.fn f) | .property (some f) _ _ => some f
  | _ => Option.none

/-- A member around a function holds its mark **on the function**. -/
theorem Value.holdsMark_of_wrapped {raw : Value} {f : FunctionId} (h : raw.wrapped? = some f)
    (w : World) : w.HoldsMark raw (.fn f) := by
  unfold Value.wrapped? at h
  split at h
  · cases h
    exact .self _ (Attribute.single_function w _)
  · cases h
    exact .static _
  · cases h
    exact .classMethod _
  · cases h
    exact .getter _ _ _
  · cases h

/-- A function that is marked after being marked is marked. -/
theorem FunctionRec.Marked.trans {f g h : FunctionRec} (hfg : f.Marked g) (hgh : g.Marked h) :
    f.Marked h where
  name_eq := hgh.name_eq.trans hfg.name_eq
  home_eq := hgh.home_eq.trans hfg.home_eq
  code_eq := hgh.code_eq.trans hfg.code_eq
  captured_eq := hgh.captured_eq.trans hfg.captured_eq
  attrs_eq name hn := (hgh.attrs_eq name hn).trans (hfg.attrs_eq name hn)
  mark := hgh.mark

namespace MarkedIn

variable {marks marks' : FunctionId → Bool} {w w₁ w₂ : World}

/-- Without marks a world is itself. -/
theorem refl (w : World) : MarkedIn (fun _ => false) w w where
  rest := rfl
  size := rfl
  marked _ _ h := nomatch h
  unmarked _ _ := rfl

/-- Functions that are marked **one after another** are marked. -/
theorem trans (h : MarkedIn marks w w₁) (h' : MarkedIn marks' w₁ w₂) :
    MarkedIn (fun i => marks i || marks' i) w w₂ where
  rest := by rw [h'.rest, h.rest]; rfl
  size := h'.size.trans h.size
  marked i f marked hf := by
    cases first : marks i with
    | false =>
        rw [first, Bool.false_or] at marked
        exact h'.marked i f marked ((h.unmarked i first).trans hf)
    | true =>
        obtain ⟨f₁, hf₁, once⟩ := h.marked i f first hf
        cases second : marks' i with
        | false => exact ⟨f₁, (h'.unmarked i second).trans hf₁, once⟩
        | true =>
            obtain ⟨f₂, hf₂, again⟩ := h'.marked i f₁ second hf₁
            exact ⟨f₂, hf₂, once.trans again⟩
  unmarked i unmarked := by
    rw [Bool.or_eq_false_iff] at unmarked
    rw [h'.unmarked i unmarked.2, h.unmarked i unmarked.1]

/-- The **mark** written into the attributes of one function. -/
theorem mapAttrs (w : World) (f : FunctionId) :
    MarkedIn (· == f) w (w.mapAttrs (.fn f) (·.put restrictedMark (.bool true))) where
  rest := rfl
  size := by simp [World.mapAttrs]
  marked i g marked hg := by
    obtain rfl : i = f := eq_of_beq marked
    refine ⟨{ g with attrs := g.attrs.put restrictedMark (.bool true) }, ?_, ?_⟩
    · simp [World.mapAttrs, Array.getElem?_modify, hg]
    · exact {
        name_eq := rfl
        home_eq := rfl
        code_eq := rfl
        captured_eq := rfl
        attrs_eq := fun name hn => g.attrs.find?_put_of_ne _ hn
        mark := g.attrs.find?_put_self _ _ }
  unmarked i unmarked := by
    have apart : ¬ f = i := fun h => by simp [h] at unmarked
    simp [World.mapAttrs, Array.getElem?_modify, apart]

/-- The same marks make the same world. -/
theorem congr (h : MarkedIn marks w w₁) (same : ∀ i, marks' i = marks i) :
    MarkedIn marks' w w₁ := (funext same : marks' = marks) ▸ h

end MarkedIn

/-- To restrict members **marks their functions**, and nothing else. -/
theorem Attribute.outcome_restrictAll {run : Runner} {members : List Value} {w : World}
    (placed : ∀ raw ∈ members, ∃ f, raw.wrapped? = some f ∧ f < w.functions.size) :
    ∃ w', (members.forM (restrict run)).outcome w = (.ok (), w') ∧
      MarkedIn (fun i => members.any fun raw => raw.wrapped? == some i) w w' := by
  induction members generalizing w with
  | nil => exact ⟨w, rfl, .refl w⟩
  | cons raw rest ih =>
      rw [List.forall_mem_cons] at placed
      obtain ⟨⟨f, hf, lt⟩, more⟩ := placed
      have first := MarkedIn.mapAttrs w f
      obtain ⟨w', restricted, marked⟩ := ih (w := w.mapAttrs (.fn f) _) fun raw hraw => by
        obtain ⟨g, hg, lt⟩ := more raw hraw
        exact ⟨g, hg, first.size.symm ▸ lt⟩
      refine ⟨w', ?_, (first.trans marked).congr fun i => ?_⟩
      · show (restrict run raw >>= fun _ => rest.forM (restrict run)).outcome w = _
        rw [Run.outcome_bind_of_ok
          (outcome_restrict_takes (Value.holdsMark_of_wrapped hf w)
            (takesMark_function (by simp [lt])))]
        exact restricted
      · rw [List.any_cons, hf]
        congr 1
        rw [Bool.eq_iff_iff, beq_iff_eq, beq_iff_eq, Option.some_inj]
        exact eq_comm

/-! ### Scans -/

namespace Resolver

section Scans

variable {V : Veil} {r : Resolver} {ask : Value → Run (Option Unit)}
  (keeps : ∀ context,
    V.Relates (fun a a' => a' = some () → a = some ()) (ask context) (ask context))

include keeps

/-- A context that does not answer does not answer **under a veil**. -/
theorem silent_veiled {context : Value} {w w' w₁ : World} (alike : V.Alike w w')
    (h : (ask context).outcome w = (.ok none, w₁)) :
    ∃ w₁', (ask context).outcome w' = (.ok none, w₁') ∧ V.Alike w₁ w₁' := by
  obtain ⟨after, ends⟩ := keeps context w w' alike
  rw [h] at after ends
  rcases h' : (ask context).outcome w' with ⟨f | a', w₁'⟩ <;> rw [h'] at after ends <;> cases ends
  rename_i kept
  cases a' with
  | none => exact ⟨w₁', rfl, after⟩
  | some _ => exact nomatch kept rfl

/-- Contexts that pass do so **under the veil**. -/
theorem Passed.veiled {l : List (Group × Value)} {w w' w₁ : World} (alike : V.Alike w w')
    (h : Passed ask l w w₁) : ∃ w₁', Passed ask l w' w₁' ∧ V.Alike w₁ w₁' := by
  induction h generalizing w' with
  | nil w => exact ⟨w', .nil w', alike⟩
  | cons hask _ ih =>
      obtain ⟨w₂, hask', after⟩ := silent_veiled keeps alike hask
      obtain ⟨w₃, rest, after⟩ := ih after
      exact ⟨w₃, .cons hask' rest, after⟩

/-- A context that is reached is reached under the veil. -/
theorem Reaches.veiled {i : Nat} {g : Group} {context : Value} {w w' w₁ : World}
    (alike : V.Alike w w') (h : r.Reaches ask w i g context w₁) :
    ∃ w₁', r.Reaches ask w' i g context w₁' ∧ V.Alike w₁ w₁' := by
  obtain ⟨w₁', passed, after⟩ := h.passed.veiled keeps alike
  exact ⟨w₁', ⟨h.entry, passed⟩, after⟩

/-- A scan that picks a position under a veil picks one without it, **no later**; if it is an
earlier one, the context there answers without the veil only. -/
theorem picks_before {j : Nat} {g' : Group} {c' : Value} {w w' w₂' : World}
    (alike : V.Alike w w') (h : r.Picks ask w' j g' c' () w₂') :
    ∃ i g c w₁ w₂, r.Reaches ask w i g c w₁ ∧ (ask c).outcome w₁ = (.ok (some ()), w₂) ∧ i ≤ j ∧
      (i < j → ∃ w₁' w₃', V.Alike w₁ w₁' ∧ (ask c).outcome w₁' = (.ok none, w₃')) := by
  have answered := firstAnswer_of_picks h
  obtain ⟨w₁', reached, answers⟩ := h
  rcases scan_cases r ask w with ⟨i, g, c, ⟨⟩, w₂, w₁, hr, hask⟩ | ⟨i, g, c, w₁, f, w₂, hr, hask⟩ |
    ⟨w₁, hp⟩
  · obtain ⟨u, hr', after⟩ := hr.veiled keeps alike
    refine ⟨i, g, c, w₁, w₂, hr, hask, Nat.le_of_not_lt fun lt => ?_, fun lt => ?_⟩
    · obtain ⟨g₂, c₂, w₃, w₄, earlier, silent⟩ := hr.before lt
      obtain ⟨u, earlier', after⟩ := earlier.veiled keeps alike
      obtain ⟨u', silent', -⟩ := silent_veiled keeps after silent
      obtain ⟨-, rfl, rfl⟩ := reached.unique earlier'
      cases answers.symm.trans silent'
    · obtain ⟨g₂, c₂, w₃, w₄, earlier, silent⟩ := reached.before lt
      obtain ⟨-, rfl, rfl⟩ := hr'.unique earlier
      exact ⟨u, w₄, after, silent⟩
  · obtain ⟨u, hr', after⟩ := hr.veiled keeps alike
    obtain ⟨-, ends⟩ := keeps c w₁ u after
    rw [hask] at ends
    rcases hask' : (ask c).outcome u with ⟨f' | a, u'⟩ <;> rw [hask'] at ends <;> cases ends
    cases answered.symm.trans (firstAnswer_of_fails hr' hask')
  · obtain ⟨u, hp', -⟩ := hp.veiled keeps alike
    cases answered.symm.trans (firstAnswer_of_passed hp')

end Scans

/-! ### What is hidden -/

/-- Two objects, one with a computed member and one with a number, and a resolver over them. -/
def shapes : World :=
  { World.empty with
    classes := #[plainClass 0 "Circle" [("area", .property (some 0) none "area")],
      plainClass 1 "Square" []]
    objects := #[plainObject "circle" 0 [], plainObject "square" 1 [("area", .int 3)]]
    functions := #[plainFunction "Circle.area" (.body "Circle.area" (.ret (.int 7)))] }

def overShapes (variant : Variant) : Resolver :=
  ⟨variant, .none, .none, .iok, [.object 0, .object 1], .module World.kernelModule, none⟩

/-- The computed member, which is to be marked. -/
def area : Value := .property (some 0) none "area"

/-- The world of shapes is heedless. -/
theorem shapes_heedless : shapes.Heedless where
  functions f hf := by
    obtain rfl : f = plainFunction "Circle.area" (.body "Circle.area" (.ret (.int 7))) := by
      simpa [shapes] using hf
    simp [plainFunction, Code.heedless, Body.heedless, Expr.heedless]
  objects o ho := by
    have either :
        o = plainObject "circle" 0 [] ∨ o = plainObject "square" 1 [("area", .int 3)] := by
      simpa [shapes] using ho
    rcases either with rfl | rfl <;> rfl
  capsules := rfl

/-- An object in an evaluation over it: one computed member asks the public scope for the other. -/
def peeking : World :=
  { World.empty with
    classes := #[plainClass 0 "P"
      [("x", .property (some 0) none "x"), ("y", .property (some 1) none "y")]]
    objects := #[plainObject "p" 0 [], ⟨none, .native .scope, none, [], .scope 0⟩]
    functions := #[plainFunction "P.x" (.body "P.x" (.ambient "y")),
      plainFunction "P.y" (.body "P.y" (.ret (.int 7)))]
    resolvers := #[⟨.publicOne, .none, .none, .iok, [.object 0], .module World.kernelModule, none⟩]
    ambient := some 1 }

def overPeeking : Resolver :=
  ⟨.privateOne, .none, .none, .iok, [.object 0], .module World.kernelModule, none⟩

end Resolver

end OrderedScope
