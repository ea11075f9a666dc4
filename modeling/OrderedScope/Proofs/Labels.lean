import OrderedScope.Label
import OrderedScope.Proofs.Sample
import OrderedScope.Proofs.Texts

/-!
# Labels

The label of a context that is no module is the text of the context, cut where it is longer than
eighty characters. A text function that fails with an ordinary error does not fail the label: the
context is then named by its class. A text whose class has a say in how long it is, or in what it
begins with, is measured and cut by that class instead, and then a label can have any length and any
error can leave. A module goes by its name, and there the label is neither cut nor guarded: it has
more than eighty characters if the name has more than seventy-one, and a module without a name has
no label.

## Main results

* `outcome_describe_of_text`, `outcome_describe_of_failure`, `outcome_describe_of_fault`: the label
  by how the text of the context ends.
* `MeasuredAs.outcome_trimmed`: a text that is measured by its characters is cut at eighty of them.
* `outcome_describe_module`: the label of a module.
* `describe_label`: which contexts have a label, and how long it is.
-/

namespace OrderedScope

open Attribute

namespace Label

/-! ### Cutting -/

/-- A text, **cut** where it is too long for a label: seventy-seven characters and three dots. -/
def cut (s : String) : String :=
  if labelLimit < s.length then String.ofList (s.toList.take (labelLimit - 3)) ++ "..." else s

/-- A text that fits is kept as it is. -/
theorem cut_eq_self {s : String} (h : s.length ≤ labelLimit) : cut s = s :=
  if_neg (Nat.not_lt.2 h)

/-- A text that does not fit is cut to **seventy-seven characters** and three dots. -/
theorem toList_cut_of_long {s : String} (h : labelLimit < s.length) :
    (cut s).toList = s.toList.take 77 ++ ['.', '.', '.'] := by
  rw [cut, if_pos h, String.toList_append, String.toList_ofList]
  rfl

/-- A text that is cut has **at most eighty** characters. -/
theorem cut_length (s : String) : (cut s).length ≤ labelLimit := by
  by_cases h : labelLimit < s.length
  · rw [← String.length_toList, toList_cut_of_long h, labelLimit]
    simp only [List.length_append, List.length_take, List.length_cons, List.length_nil]
    omega
  · rw [cut, if_neg h]
    exact Nat.not_lt.1 h

/-- The text of a module that goes by a name. -/
def titled (name : String) : String := "<module " ++ name ++ ">"

/-- What stands around the name of a module has nine characters. -/
theorem titled_length (name : String) : (titled name).length = name.length + 9 := by
  have opening : "<module ".length = 8 := rfl
  have closing : ">".length = 1 := rfl
  rw [titled, String.length_append, String.length_append, opening, closing]
  omega

/-! ### Texts that are measured by their characters -/

/-- A value is a text that is **measured by its characters**: its class has no say in how long it
is, nor in what it begins with. -/
structure MeasuredAs (w : World) (text : Value) (s : String) : Prop where
  content : w.content? text = some s
  unmeasured : w.ownHook? text "__len__" = none
  uncut : w.ownHook? text "__getitem__" = none

/-- Plain texts are measured by their characters. -/
theorem measuredAs_str (w : World) (s : String) : MeasuredAs w (.str s) s where
  content := rfl
  unmeasured := World.ownHook?_native rfl (by decide)
  uncut := World.ownHook?_native rfl (by decide)

/-- What a text **is cut to**: one that fits stays the text that it is. -/
def fitted (text : Value) (s : String) : Value :=
  if s.length ≤ labelLimit then text else .str (cut s)

variable {run : Runner} {w : World} {text : Value} {s : String}

/-- A plain text stays one. -/
theorem fitted_str (s : String) : fitted (.str s) s = .str (cut s) := by
  unfold fitted
  split
  · rename_i fits
    rw [cut_eq_self fits]
  · rfl

/-- What a text that is measured by its characters is cut to are **the characters, cut**. -/
theorem MeasuredAs.content?_fitted (h : MeasuredAs w text s) :
    w.content? (fitted text s) = some (cut s) := by
  unfold fitted
  split
  · rename_i fits
    rw [h.content, cut_eq_self fits]
  · rfl

/-- The first characters of a plain text are taken and dots put behind them without code. -/
theorem outcome_withDots_str (s : String) :
    (withDots run (.str s)).outcome w = (.ok (.str (s ++ "...")), w) := by
  have unasked : w.ownHook? (.str s) "__add__" = none := World.ownHook?_native rfl (by decide)
  rw [withDots, Run.outcome_bind_of_ok (outcome_ask? unasked _),
    Run.outcome_bind_of_ok (Run.outcome_reading _ w)]
  rfl

/-- A text that is measured by its characters **is cut** at eighty of them, without code. -/
theorem MeasuredAs.outcome_trimmed (h : MeasuredAs w text s) :
    (trimmed run text).outcome w = (.ok (fitted text s), w) := by
  have told : (toldLength run text).outcome w = (.ok s.length, w) := by
    rw [toldLength, Run.outcome_bind_of_ok (outcome_ask? h.unmeasured _)]
    simp only [Value.contentOf, bind_pure_comp, Run.outcome_map, Run.outcome_reading, h.content,
      Option.getD_some]
  have begun : (beginning run text).outcome w =
      (.ok (.str (String.ofList (s.toList.take (labelLimit - 3)))), w) := by
    rw [beginning, Run.outcome_bind_of_ok (outcome_ask? h.uncut _)]
    simp only [Value.contentOf, bind_pure_comp, Run.outcome_map, Run.outcome_reading, h.content,
      Option.getD_some]
  rw [trimmed, Run.outcome_bind_of_ok told, fitted, cut]
  by_cases fits : s.length ≤ labelLimit
  · rw [if_neg (by omega), if_pos fits]
    rfl
  · rw [if_pos (by omega), if_neg fits, if_pos (Nat.not_le.1 fits), Run.outcome_bind_of_ok begun]
    exact outcome_withDots_str _

end Label

open Label

variable {run : Runner} {w w₁ w₂ : World} {v text : Value} {e : Error} {f : Fault}

/-! ### Contexts that are no modules -/

section Other

variable (other : w.isModule v = false)

include other

/-- A context that is no module is labelled by its text, unless there is none. -/
theorem outcome_describe :
    (describe run v).outcome w =
      (do
        let text ← Run.recover (·.isA .failure) (run (.text [] v)) fun _ => do
          let c ← Run.reading (·.classOf v)
          Run.logText .debug fun _ => do
            let shown ← run (.text [] (.cls c))
            pure ("repr() failed for context of type " ++ (← shown.contentOf))
          Value.str <$> Run.reading (anonymous · v)
        trimmed run text).outcome w := by
  rw [describe, Run.outcome_bind_of_ok (Run.outcome_reading _ w), other]
  rfl

/-- A context that has a text is labelled by **what the text is cut to**. -/
theorem outcome_describe_of_text (given : (run (.text [] v)).outcome w = (.ok text, w₁)) :
    (describe run v).outcome w = (trimmed run text).outcome w₁ := by
  rw [outcome_describe other, Run.outcome_bind_of_ok (Run.outcome_recover_ok given)]

/-- A text that ends in something else than an ordinary error ends the label. -/
theorem outcome_describe_of_fault (failed : (run (.text [] v)).outcome w = (.error f, w₁))
    (extraordinary : ∀ e, f = .raised e → e.isA .failure = false) :
    (describe run v).outcome w = (.error f, w₁) := by
  rw [outcome_describe other]
  refine Run.outcome_bind_of_error ?_
  rw [Run.outcome_recover, failed]
  cases f with
  | raised e => simp [extraordinary e rfl]
  | exhausted => rfl

/-- A context whose text function fails with an ordinary error is named **by its class**. Only the
message about that can end the label, where it is logged and the text of the class does not end. -/
theorem outcome_describe_of_failure
    (failed : (run (.text [] v)).outcome w = (.error (.raised e), w₁))
    (ordinary : e.isA .failure = true) :
    (∃ w₂, (describe run v).outcome w = (.ok (.str (cut (anonymous w₂ v))), w₂)) ∨
    ∃ w₂, (run (.text [] (.cls (w₁.classOf v)))).outcome w₁ = (.error .exhausted, w₂) ∧
      (describe run v).outcome w = (.error .exhausted, w₂) := by
  have handled : (describe run v).outcome w =
      (do
        Run.logText .debug fun _ => do
          let shown ← run (.text [] (.cls (w₁.classOf v)))
          pure ("repr() failed for context of type " ++ (← shown.contentOf))
        let text ← Value.str <$> Run.reading (anonymous · v)
        trimmed run text).outcome w₁ := by
    rw [outcome_describe other, Run.outcome_bind, Run.outcome_recover, failed]
    simp only [ordinary, ↓reduceIte]
    rw [Run.outcome_bind_of_ok (Run.outcome_reading _ w₁), ← Run.outcome_bind, bind_assoc]
  rcases told : (Run.logText .debug fun _ => do
      let shown ← run (.text [] (.cls (w₁.classOf v)))
      pure ("repr() failed for context of type " ++ (← shown.contentOf))).outcome w₁ with
    ⟨f | _, w₂⟩
  · right
    obtain ⟨rfl, asked⟩ := Run.logText_error told
    refine ⟨w₂, ?_, handled.trans (Run.outcome_bind_of_error told)⟩
    rcases Run.outcome_bind_error_iff.1 asked with asked | ⟨_, _, _, made⟩
    · exact asked
    · cases made
  · left
    refine ⟨w₂, (handled.trans (Run.outcome_bind_of_ok told)).trans ?_⟩
    have named : (Value.str <$> Run.reading (anonymous · v) : Run Value).outcome w₂ =
        (.ok (.str (anonymous w₂ v)), w₂) := rfl
    rw [Run.outcome_bind_of_ok named, (measuredAs_str w₂ _).outcome_trimmed, fitted_str]

/-- However the text of a context ends, its label is short, or the text **cuts itself**; and but for
such a text only an error that is no ordinary one leaves. -/
theorem describe_cases (run : Runner) :
    (∃ s label w₂, (describe run v).outcome w = (.ok label, w₂) ∧
      w₂.content? label = some (cut s)) ∨
    (∃ w₂, (describe run v).outcome w = (.error .exhausted, w₂)) ∨
    (∃ e w₁, (run (.text [] v)).outcome w = (.error (.raised e), w₁) ∧ e.isA .failure = false ∧
      (describe run v).outcome w = (.error (.raised e), w₁)) ∨
    ∃ text w₁, (run (.text [] v)).outcome w = (.ok text, w₁) ∧ (∀ s, ¬ MeasuredAs w₁ text s) ∧
      (describe run v).outcome w = (trimmed run text).outcome w₁ := by
  rcases ends : (run (.text [] v)).outcome w with ⟨(e | _) | text, w₁⟩
  · cases ordinary : e.isA .failure with
    | true =>
      rcases outcome_describe_of_failure other ends ordinary with ⟨w₂, named⟩ | ⟨w₂, -, ended⟩
      · exact .inl ⟨_, _, w₂, named, rfl⟩
      · exact .inr (.inl ⟨w₂, ended⟩)
    | false =>
      refine .inr (.inr (.inl ⟨e, w₁, rfl, ordinary, outcome_describe_of_fault other ends ?_⟩))
      rintro _ ⟨⟩
      exact ordinary
  · exact .inr (.inl ⟨w₁, outcome_describe_of_fault other ends nofun⟩)
  · have labelled := outcome_describe_of_text other ends
    by_cases measured : ∃ s, MeasuredAs w₁ text s
    · obtain ⟨s, measured⟩ := measured
      exact .inl ⟨s, _, w₁, labelled.trans measured.outcome_trimmed, measured.content?_fitted⟩
    · exact .inr (.inr (.inr ⟨text, w₁, rfl, not_exists.1 measured, labelled⟩))

/-- With a budget of its depth an inert context **has a label**, and no code of the world is run. -/
theorem outcome_describe_inert {depth budget : Nat} (inert : w.Inert depth v)
    (enough : depth ≤ budget) :
    ∃ s, (describe (Interpreter.runner budget) v).outcome w = (.ok (.str (cut s)), w) := by
  obtain ⟨s, written⟩ := inert.outcome_text enough []
  rw [outcome_describe_of_text other written, (measuredAs_str w s).outcome_trimmed, fitted_str]
  exact ⟨s, rfl⟩

end Other

/-! ### Modules -/

/-- A module is labelled by **its name**, as it is. -/
theorem outcome_describe_module (module : w.isModule v = true) :
    (describe run v).outcome w =
      (do
        let name ← get run v "__name__"
        (Value.str ∘ titled) <$> name.formatted run : Run Value).outcome w := by
  rw [describe, Run.outcome_bind_of_ok (Run.outcome_reading _ w), module]
  rfl

/-- A module has a label **exactly if** its name is read and put into words. -/
theorem outcome_describe_module_ok_iff (module : w.isModule v = true) {label : Value} :
    (describe run v).outcome w = (.ok label, w₂) ↔
      ∃ name w₁ shown, (get run v "__name__").outcome w = (.ok name, w₁) ∧
        (name.formatted run).outcome w₁ = (.ok shown, w₂) ∧ label = .str (titled shown) := by
  rw [outcome_describe_module module, Run.outcome_bind_ok_iff]
  constructor
  · rintro ⟨name, w₁, named, made⟩
    obtain ⟨shown, written, rfl⟩ := Run.outcome_map_ok_iff.1 made
    exact ⟨name, w₁, shown, named, written, rfl⟩
  · rintro ⟨name, w₁, shown, named, written, rfl⟩
    exact ⟨name, w₁, named, Run.outcome_map_ok_iff.2 ⟨shown, written, rfl⟩⟩

/-- The label of a module fails **exactly as** reading its name does, or putting it into words. -/
theorem outcome_describe_module_error_iff (module : w.isModule v = true) :
    (describe run v).outcome w = (.error f, w₂) ↔
      (get run v "__name__").outcome w = (.error f, w₂) ∨
      ∃ name w₁, (get run v "__name__").outcome w = (.ok name, w₁) ∧
        (name.formatted run).outcome w₁ = (.error f, w₂) := by
  simp only [outcome_describe_module module, Run.outcome_bind_error_iff, Run.outcome_map_error_iff]

section Plain

variable {i : ModuleId} {m : ModuleRec} (known : w.modules[i]? = some m)

include known

/-- The name of a plain module is read **among its members**. -/
theorem outcome_get_moduleName : (get run (.module i) "__name__").outcome w =
    match m.members.find? "__name__", m.members.find? "__getattr__" with
    | some x, _ => (.ok x, w)
    | none, some hook => (run (.call hook [.str "__name__"] [])).outcome w
    | none, none => (.error (.raised (.noModuleAttribute (shownName? m) "__name__")), w) :=
  outcome_get_module known (by rw [World.typeMember?_native]; rfl)

/-- A plain module that has a text for a name is labelled **by it**, however long it is. -/
theorem outcome_describe_named {name : String}
    (named : m.members.find? "__name__" = some (.str name)) :
    (describe run (.module i)).outcome w = (.ok (.str (titled name)), w) := by
  refine (outcome_describe_module_ok_iff rfl).2 ⟨.str name, w, name, ?_, rfl, rfl⟩
  rw [outcome_get_moduleName known, named]

/-- A plain module without a name has **no label**. -/
theorem outcome_describe_nameless (nameless : m.members.find? "__name__" = none)
    (unhooked : m.members.find? "__getattr__" = none) :
    (describe run (.module i)).outcome w =
      (.error (.raised (.noModuleAttribute none "__name__")), w) := by
  refine (outcome_describe_module_error_iff rfl).2 (Or.inl ?_)
  rw [outcome_get_moduleName known, nameless, unhooked, shownName?, nameless]

end Plain

/-- A world with an object of a long text and one that refuses to have a text. -/
def talkingWorld : World :=
  { World.empty with
    classes := #[plainClass 0 "Loud" [("__repr__", .fn 0)],
      plainClass 1 "Shy" [("__repr__", .fn 1)]]
    objects := #[plainObject "loud" 0 [], plainObject "shy" 1 []]
    functions := #[
      plainFunction "Loud.__repr__" (.silent (.ret (.str (String.ofList (List.replicate 90 'a'))))),
      plainFunction "Shy.__repr__" (.silent (.raise .value "refused"))] }

/-- A world with a module of a long name and one without a name, and with two objects whose texts
are of a class that has a say in their length: ninety characters that are told to be five, and one
that fails to tell. -/
def archiveWorld : World :=
  { World.empty with
    modules := #[⟨"builtins", kernelMembers⟩,
      ⟨"long", [("__name__", .str (String.ofList (List.replicate 72 'm')))]⟩, ⟨"quiet", []⟩]
    classes := #[textClass 0 "Brief" [("__len__", .fn 0)], textClass 1 "Lost" [("__len__", .fn 1)],
      plainClass 2 "Sly" [("__repr__", .fn 2)], plainClass 3 "Sad" [("__repr__", .fn 3)]]
    objects := #[
      ⟨some "brief", .world 0, some [], [], .text (String.ofList (List.replicate 90 'a'))⟩,
      ⟨some "lost", .world 1, some [], [], .text "short"⟩, plainObject "sly" 2 [],
      plainObject "sad" 3 []]
    functions := #[plainFunction "Brief.__len__" (.silent (.ret (.int 5))),
      plainFunction "Lost.__len__" (.silent (.raise .value "refused")),
      plainFunction "Sly.__repr__" (.silent (.ret (.object "brief"))),
      plainFunction "Sad.__repr__" (.silent (.ret (.object "lost")))] }

end OrderedScope
