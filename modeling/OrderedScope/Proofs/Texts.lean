import OrderedScope.Interpreter
import OrderedScope.Proofs.Access

/-!
# Texts of Inert Values

The text of a value is made of the texts of its parts. Where neither the value nor any part of it,
down to some depth, belongs to a class with a text function of its own, no code of the world is run:
with a budget of its depth such a value has a text, and the world stays as it is.

## Main results

* `World.showsStandard_native`: the native classes leave the text to the standard one.
* `World.Inert.outcome_text`: an inert value has a text.
-/

namespace OrderedScope

/-- Runs along a list of which each **gives something** give a list. -/
theorem Run.exists_outcome_mapM {α β : Type} {f : α → Run β} {l : List α} {w : World}
    (h : ∀ a ∈ l, ∃ b, (f a).outcome w = (.ok b, w)) :
    ∃ bs, (l.mapM f).outcome w = (.ok bs, w) := by
  induction l with
  | nil => exact ⟨[], rfl⟩
  | cons a rest ih =>
    rw [List.forall_mem_cons] at h
    obtain ⟨⟨b, first⟩, others⟩ := h
    obtain ⟨bs, given⟩ := ih others
    exact ⟨b :: bs, by
      rw [List.mapM_cons, outcome_bind_of_ok first, outcome_bind_of_ok given]
      rfl⟩

namespace World

/-- Whether the text of a value is the **standard** one: whether its class takes its text function
from the native classes. -/
def showsStandard (w : World) (v : Value) : Bool :=
  (w.ownHook? v "__repr__").isNone

/-- The items of an object that is no text and holds some. -/
def listedParts (w : World) (v : Value) : List Value :=
  match w.content? v with
  | none => (w.heldItems? v).getD []
  | some _ => []

/-- The **parts** of a value whose texts stand in its standard text. -/
def shownParts (w : World) : Value → List Value
  | .list items | .tuple items => items
  | .growing i => (w.growing[i]?).getD []
  | .dict entries | .proxy entries => entries.map (·.2)
  | .bound _ self => [self]
  | .classMethod f => [f]
  | .capsule i => (w.capsules[i]?).elim [] fun c => [c.closure.fn]
  | .object i =>
    match w.objects[i]? with
    | none => []
    | some o =>
      match o.payload with
      | .closure fn outer => [fn, outer]
      | .partialCall fn => [fn]
      | .plain | .text _ | .items _ =>
        if o.cls = .native .space then (o.attrs.getD []).map (·.2) else w.listedParts (.object i)
      | _ => []
  | _ => []

/-- Whether a value **holds** the parts that its text shows. A capsule of what only says that it is
a closure asks it for what it defers, and a direction asks its entries for their letters. -/
def holdsParts (w : World) : Value → Bool
  | .capsule i => (w.capsules[i]?).all fun c => match c.closure, c.direction with
    | .parts _, .direction entries => (Value.groups? entries).isSome
    | _, _ => false
  | .direction entries => (Value.groups? entries).isSome
  | .object i => !w.isSubclass (w.classOf (.object i)) (.native .direction)
  | _ => true

/-- A value is **inert** if its text is the standard one, it holds the parts that this shows, and so
it is with its parts, with at most some values around each other. -/
inductive Inert (w : World) : Nat → Value → Prop
  | mk {depth : Nat} {v : Value} : w.showsStandard v = true → w.holdsParts v = true →
      (∀ p ∈ w.shownParts v, Inert w depth p) → Inert w (depth + 1) v

/-- The native classes leave the text of a value to the **standard** one. -/
theorem showsStandard_native {w : World} {v : Value} {c : NativeClass}
    (h : w.classOf v = .native c) : w.showsStandard v = true := by
  rw [showsStandard, ownHook?_native h (by decide)]
  rfl

end World

/-! ### Letters -/

section Letters

variable {run : Runner} {w : World}

/-- A group **has its letter**. -/
theorem Attribute.outcome_get_letter (g : Group) :
    (get run (.group g) "letter").outcome w = (.ok (.str g.letter.toString), w) := by
  have tells : w.TellsClass (.group g) := tellsClass_of_native rfl (by decide)
  have member : w.typeMember? (w.classOf (.group g)) "letter" =
      some (.nativeMember (.native .group) .getset "letter") := World.typeMember?_native ..
  rw [outcome_get_of_unhooked tells.front tells.back]
  exact outcome_objectGet_native (.inl rfl) member

/-- Single letters are **joined** to the word of them. -/
theorem Value.outcome_joinTexts (word : List Char) (place : Nat) :
    (joinTexts place (word.map fun c => .str c.toString)).outcome w =
      (.ok (String.ofList word), w) := by
  induction word generalizing place with
  | nil => rfl
  | cons c rest ih =>
    have first : c.toString ++ String.ofList rest = String.ofList (c :: rest) := by
      rw [← String.toList_inj]
      simp
    rw [List.map_cons, joinTexts, Run.outcome_bind_of_ok (Run.outcome_reading _ w)]
    simp only [World.content?]
    rw [Run.outcome_bind_of_ok (ih _), first]
    rfl

/-- The letters of groups **are written** as their order is. -/
theorem Value.outcome_letters {entries : List Value} {groups : List Group}
    (named : groups? entries = some groups) :
    (letters run entries).outcome w = (.ok (lettersOf groups), w) := by
  obtain rfl := groups?_eq_some.1 named
  have fetched : ((groups.map Value.group).mapM (Attribute.get run · "letter")).outcome w =
      (.ok ((groups.map Group.letter).map fun c => .str c.toString), w) := by
    clear named
    induction groups with
    | nil => rfl
    | cons g rest ih =>
      rw [List.map_cons, List.mapM_cons, Run.outcome_bind_of_ok (Attribute.outcome_get_letter g),
        Run.outcome_bind_of_ok ih]
      rfl
  rw [letters, Run.outcome_bind_of_ok fetched]
  exact outcome_joinTexts _ 0

/-- A text **has no letter**, and so a direction with a text behind its groups has none. -/
theorem Value.outcome_letters_text (groups : List Group) (s : String) (rest : List Value) :
    (letters run (groups.map .group ++ .str s :: rest)).outcome w =
      (.error (.raised (.noAttribute "str" "letter")), w) := by
  have refused : (Attribute.get run (.str s) "letter").outcome w =
      (.error (.raised (.noAttribute "str" "letter")), w) := by
    have tells : w.TellsClass (.str s) := Attribute.tellsClass_of_native rfl (by decide)
    have member : w.typeMember? (w.classOf (.str s)) "letter" = Option.none :=
      World.typeMember?_native ..
    rw [Attribute.outcome_get_of_unhooked tells.front tells.back, Attribute.standardGet,
      Attribute.objectGet, Run.outcome_bind_of_ok (Run.outcome_get w)]
    · simp only [member]
      rfl
    all_goals
      intros
      contradiction
  refine Run.outcome_bind_of_error ?_
  induction groups with
  | nil =>
    rw [List.map_nil, List.nil_append, List.mapM_cons]
    exact Run.outcome_bind_of_error refused
  | cons g groups ih =>
    rw [List.map_cons, List.cons_append, List.mapM_cons,
      Run.outcome_bind_of_ok (Attribute.outcome_get_letter g)]
    exact Run.outcome_bind_of_error ih

end Letters

namespace Label

variable {run : Runner} {w : World} {v : Value} {active : List ObjectId}

/-- A value whose class has no text function of its own has the **standard** text. -/
theorem outcome_text_standard (h : w.showsStandard v = true) :
    (text run active v).outcome w = (Value.str <$> standardText run active v).outcome w := by
  rw [text, Run.outcome_bind_of_ok (Attribute.outcome_ask? (Option.isNone_iff_eq_none.1 h) _)]

section Parts

variable {entries : Members} {vs : List Value}

/-- A part that has a text is written. -/
theorem exists_outcome_part (h : ∃ s, (run (.text active v)).outcome w = (.ok (.str s), w)) :
    ∃ s, (part run active v).outcome w = (.ok s, w) := by
  obtain ⟨s, written⟩ := h
  exact ⟨s, by rw [part.eq_def, Run.outcome_bind_of_ok written]; rfl⟩

/-- A part that has a text stands in a message **as it is written**. -/
theorem exists_outcome_quotedPart (h : ∃ s, (run (.text active v)).outcome w = (.ok (.str s), w)) :
    ∃ s, (quotedPart run active v).outcome w = (.ok s, w) := by
  obtain ⟨s, written⟩ := h
  exact ⟨s, by rw [quotedPart.eq_def, Run.outcome_bind_of_ok written]; rfl⟩

/-- Parts that have texts are written one after the other. -/
theorem exists_outcome_parts
    (h : ∀ p ∈ vs, ∃ s, (run (.text active p)).outcome w = (.ok (.str s), w)) :
    ∃ texts, (parts run active vs).outcome w = (.ok texts, w) :=
  Run.exists_outcome_mapM fun p hp => exists_outcome_part (h p hp)

/-- Entries whose values have texts are written beside their keys. -/
theorem exists_outcome_fields (key : String → String)
    (h : ∀ p ∈ entries.map (·.2), ∃ s, (run (.text active p)).outcome w = (.ok (.str s), w)) :
    ∃ texts, (fields run active key entries).outcome w = (.ok texts, w) := by
  refine Run.exists_outcome_mapM fun e he => ?_
  obtain ⟨s, written⟩ := exists_outcome_part (h e.2 (List.mem_map_of_mem he))
  exact ⟨_, Run.outcome_bind_of_ok written⟩

/-- The items of a tuple are written between brackets. -/
theorem exists_outcome_tupleText
    (h : ∀ p ∈ vs, ∃ s, (run (.text active p)).outcome w = (.ok (.str s), w)) :
    ∃ s, (tupleText run active vs).outcome w = (.ok s, w) := by
  obtain ⟨texts, written⟩ := exists_outcome_parts h
  exact ⟨_, by rw [tupleText, Run.outcome_bind_of_ok written]; rfl⟩

/-- What is made of something that is given **is given**. -/
theorem exists_outcome_made {α : Type} {x : Run α} (f : α → String)
    (h : ∃ a, x.outcome w = (.ok a, w)) :
    ∃ s, (x >>= fun a => pure (f a)).outcome w = (.ok s, w) := by
  obtain ⟨a, given⟩ := h
  exact ⟨f a, Run.outcome_bind_of_ok given⟩

end Parts

/-- What an object that is no direction holds as a text, a tuple or a list **is written**. -/
theorem exists_heldText (apart : w.isSubclass (w.classOf v) (.native .direction) = false)
    (h : ∀ p ∈ w.listedParts v, ∃ s, (run (.text active p)).outcome w = (.ok (.str s), w)) :
    ∃ s, (heldText run active v).outcome w = (.ok s, w) := by
  rw [heldText, Run.outcome_bind_of_ok (Run.outcome_get w)]
  rw [World.listedParts] at h
  rcases content : w.content? v with _ | s
  · rcases held : w.heldItems? v with _ | items <;> rw [content, held] at h
    · simp only [apart, Bool.false_eq_true, ↓reduceIte]
      exact ⟨_, rfl⟩
    · dsimp only
      split
      · exact exists_outcome_tupleText h
      · exact exists_outcome_made _ (exists_outcome_parts h)
  · exact ⟨_, rfl⟩

/-- An object whose parts have texts has a standard text: that of what it **carries**, or else that
of an object of its class. -/
theorem exists_standardText_object {i : ObjectId}
    (apart : w.isSubclass (w.classOf (.object i)) (.native .direction) = false)
    (h : ∀ p ∈ w.shownParts (.object i), ∀ active,
      ∃ s, (run (.text active p)).outcome w = (.ok (.str s), w)) :
    ∃ s, (standardText run active (.object i)).outcome w = (.ok s, w) := by
  rw [World.shownParts] at h
  cases found : w.objects[i]? with
  | none =>
    rw [standardText.eq_def, Run.outcome_bind_of_ok (Run.outcome_get w)]
    simp only [found]
    exact ⟨_, rfl⟩
  | some o =>
    simp only [found] at h
    have held (same : o.payload = .plain ∨ (∃ s, o.payload = .text s) ∨
        ∃ vs, o.payload = .items vs) :
        ∃ s, (standardText run active (.object i)).outcome w = (.ok s, w) := by
      rw [standardText.eq_def, Run.outcome_bind_of_ok (Run.outcome_get w)]
      obtain payload | ⟨_, payload⟩ | ⟨_, payload⟩ := same <;> simp only [found, payload] at h ⊢ <;>
      · split at h
        · rename_i space
          rw [if_pos space]
          split
          · exact ⟨_, rfl⟩
          · exact exists_outcome_made _ (exists_outcome_fields _ fun p hp => h p hp (i :: active))
        · rename_i space
          rw [if_neg space]
          exact exists_heldText apart fun p hp => h p hp active
    cases payload : o.payload with
    | plain => exact held (.inl payload)
    | text s => exact held (.inr (.inl ⟨s, payload⟩))
    | items vs => exact held (.inr (.inr ⟨vs, payload⟩))
    | closure fn outer =>
      rw [standardText.eq_def, Run.outcome_bind_of_ok (Run.outcome_get w)]
      simp only [found, payload, List.forall_mem_cons] at h ⊢
      obtain ⟨text, written⟩ := exists_outcome_quotedPart (h.1 active)
      rw [Run.outcome_bind_of_ok written]
      exact exists_outcome_made _ (exists_outcome_quotedPart (h.2.1 active))
    | partialCall fn =>
      rw [standardText.eq_def, Run.outcome_bind_of_ok (Run.outcome_get w)]
      simp only [found, payload, List.forall_mem_singleton] at h ⊢
      exact exists_outcome_made _ (exists_outcome_part (h active))
    | _ =>
      rw [standardText.eq_def, Run.outcome_bind_of_ok (Run.outcome_get w)]
      simp only [found, payload]
      exact ⟨_, rfl⟩

/-- A value that holds its parts, and whose parts have texts, **has a standard text**. -/
theorem exists_standardText (holds : w.holdsParts v = true)
    (h : ∀ p ∈ w.shownParts v, ∀ active,
      ∃ s, (run (.text active p)).outcome w = (.ok (.str s), w)) :
    ∃ s, (standardText run active v).outcome w = (.ok s, w) := by
  have sequence : ∃ texts, (parts run active (w.shownParts v)).outcome w = (.ok texts, w) :=
    exists_outcome_parts fun p hp => h p hp active
  have single {p : Value} (hp : p ∈ w.shownParts v) :
      ∃ s, (part run active p).outcome w = (.ok s, w) := exists_outcome_part (h p hp active)
  rw [standardText.eq_def, Run.outcome_bind_of_ok (Run.outcome_get w)]
  cases v with
  | list items => exact exists_outcome_made _ sequence
  | growing i => exact exists_outcome_made _ sequence
  | tuple items => exact exists_outcome_tupleText fun p hp => h p hp active
  | direction entries =>
    obtain ⟨groups, named⟩ := Option.isSome_iff_exists.1 holds
    exact exists_outcome_made _ ⟨_, Value.outcome_letters named⟩
  | dict entries =>
    exact exists_outcome_made _ (exists_outcome_fields _ fun p hp => h p hp active)
  | proxy entries =>
    exact exists_outcome_made _ (exists_outcome_fields _ fun p hp => h p hp active)
  | bound f self => exact exists_outcome_made _ (single (List.mem_singleton.2 rfl))
  | classMethod f => exact exists_outcome_made _ (single (List.mem_singleton.2 rfl))
  | capsule i =>
    cases found : w.capsules[i]? with
    | none =>
      simp only [found]
      exact ⟨_, rfl⟩
    | some c =>
      have shown : c.closure.fn ∈ w.shownParts (.capsule i) := by simp [World.shownParts, found]
      rw [World.holdsParts, found, Option.all_some] at holds
      split at holds
      · rename_i k entries kept directed
        obtain ⟨groups, named⟩ := Option.isSome_iff_exists.1 holds
        rw [kept, KeptClosure.fn] at shown
        obtain ⟨text, written⟩ := exists_outcome_quotedPart (h _ shown active)
        simp only [found, kept, directed, pure_bind]
        rw [Run.outcome_bind_of_ok written]
        exact exists_outcome_made _ ⟨_, Value.outcome_letters named⟩
      · cases holds
  | object i => exact exists_standardText_object (by simpa [World.holdsParts] using holds) h
  | _ => exact ⟨_, rfl⟩

end Label

/-- With a budget of its depth an inert value **has a text**, and no code of the world is run. -/
theorem World.Inert.outcome_text {w : World} {depth budget : Nat} {v : Value}
    (h : w.Inert depth v) (enough : depth ≤ budget) (active : List ObjectId) :
    ∃ s, (Interpreter.runner budget (.text active v)).outcome w = (.ok (.str s), w) := by
  induction h generalizing budget active with
  | @mk depth v standard holds _ ih =>
    obtain ⟨budget, rfl⟩ : ∃ less, budget = less + 1 := ⟨budget - 1, by omega⟩
    obtain ⟨s, written⟩ : ∃ s, (Label.standardText (Interpreter.runner budget) active v).outcome w =
        (.ok s, w) :=
      Label.exists_standardText holds fun p hp active =>
        ih p hp (Nat.le_of_succ_le_succ enough) active
    refine ⟨s, ?_⟩
    rw [Interpreter.runner_succ]
    exact (Label.outcome_text_standard standard).trans
      (Run.outcome_map_ok_iff.2 ⟨s, written, rfl⟩)

/-- An inert value has a **quoted text**, which it gives without running code of the world. -/
theorem World.Inert.outcome_quotedText {w : World} {depth budget : Nat} {v : Value}
    (h : w.Inert depth v) (enough : depth ≤ budget) :
    ∃ s, (v.quotedText (Interpreter.runner budget)).outcome w = (.ok s, w) := by
  obtain ⟨s, written⟩ := h.outcome_text enough []
  exact ⟨s, by rw [Value.quotedText, Run.outcome_bind_of_ok written]; rfl⟩

/-- An inert value whose class gives no other text for it has a **plain text**. -/
theorem World.Inert.outcome_plainText {w : World} {depth budget : Nat} {v : Value}
    (h : w.Inert depth v) (own : w.ownHook? v "__str__" = none) (enough : depth ≤ budget) :
    ∃ s, (v.plainText (Interpreter.runner budget)).outcome w = (.ok s, w) := by
  rw [Value.plainText.eq_def]
  split
  · exact ⟨_, rfl⟩
  · exact ⟨_, rfl⟩
  · cases h with
    | mk _ holds _ =>
      obtain ⟨groups, named⟩ := Option.isSome_iff_exists.1 holds
      exact ⟨_, Value.outcome_letters named⟩
  · rw [Run.outcome_bind_of_ok (Attribute.outcome_ask? own []),
      Run.outcome_bind_of_ok (Run.outcome_reading _ w)]
    cases w.content? v with
    | some s => exact ⟨s, rfl⟩
    | none =>
      obtain ⟨s, written⟩ := h.outcome_text enough []
      exact ⟨s, Run.outcome_bind_of_ok written⟩

/-- A value of a native class is **inert** if it holds its parts and these are. -/
theorem World.inert_of_native {w : World} {v : Value} {c : NativeClass} {depth : Nat}
    (cls : w.classOf v = .native c) (holds : w.holdsParts v = true)
    (parts : ∀ p ∈ w.shownParts v, w.Inert depth p) : w.Inert (depth + 1) v :=
  .mk (World.showsStandard_native cls) holds parts

end OrderedScope
