import OrderedScope.Proofs.Layers
import OrderedScope.Proofs.Texts

/-!
# Documents

What the text of a settings file can spell: texts, numbers, truth values and moments, and arrays and
tables of these. A document that is laid over another one is a document again, no deeper than the
two of them, and every document has a text, which is written with a budget of its depth. The faults
of documents that are taken for tables of settings or of profiles are known.

## Main results

* `IsDocument.overlay`, `documents_overlay`: documents laid over each other.
* `IsDocument.outcome_quotedText`, `IsDocument.outcome_plainText`: the texts of a document.
* `IsDocument.meets_settingsOf`, `IsDocument.meets_profilesOf`: the faults of a document.
-/

namespace OrderedScope

namespace Settings

/-- What stands **under a name**, with an empty table in place of nothing. -/
def part (m : Members) (name : String) : Value := (m.find? name).getD (.dict [])

/-- A table within a document holds the entries of the part. -/
theorem tableIn_eq (m : Members) (name : String) : tableIn m name = entriesOf (part m name) := by
  rw [tableIn, part]
  rcases m.find? name with _ | v
  · rfl
  · cases v <;> rfl

/-- What the text of a settings file can **spell**, with at most some arrays and tables around each
other. A moment in time is an object of a native class. -/
inductive IsDocument (w : World) : Nat → Value → Prop
  | bool (depth : Nat) (b : Bool) : IsDocument w depth (.bool b)
  | int (depth : Nat) (n : Int) : IsDocument w depth (.int n)
  | float (depth : Nat) (x : Float) : IsDocument w depth (.float x)
  | str (depth : Nat) (s : String) : IsDocument w depth (.str s)
  | moment (depth : Nat) {i : ObjectId} {o : ObjectRec} {name : String} :
      w.objects[i]? = some o → o.cls = .native (.named name) → o.payload = .plain →
      IsDocument w depth (.object i)
  | array {depth : Nat} {items : List Value} : (∀ v ∈ items, IsDocument w depth v) →
      IsDocument w (depth + 1) (.list items)
  | table {depth : Nat} {entries : Members} : (∀ e ∈ entries, IsDocument w depth e.2) →
      IsDocument w (depth + 1) (.dict entries)

namespace IsDocument

variable {w : World} {depth : Nat} {m : Members} {v x y : Value}

/-- A document is one of a **greater depth** as well. -/
theorem succ (h : IsDocument w depth v) : IsDocument w (depth + 1) v := by
  induction h with
  | bool depth b => exact .bool _ b
  | int depth n => exact .int _ n
  | float depth x => exact .float _ x
  | str depth s => exact .str _ s
  | moment depth object cls payload => exact .moment _ object cls payload
  | array _ ih => exact .array ih
  | table _ ih => exact .table ih

/-- A table with one document in it is a **document**. -/
theorem single (name : String) (h : IsDocument w depth v) :
    IsDocument w (depth + 1) (.dict [(name, v)]) :=
  .table (by simpa using h)

/-- A document laid over another one is **as deep** as the deeper of them. -/
theorem overlay (hx : IsDocument w depth x) (hy : IsDocument w depth y) :
    IsDocument w depth (overlayValue x y) := by
  induction depth generalizing x y with
  | zero => cases hx <;> exact hy
  | succ depth ih =>
    cases hx with
    | table hx =>
      cases hy with
      | table hy =>
        exact .table (forall_mem_overlay (fun _ _ _ low high => ih low high) hx hy)
      | _ => constructor <;> assumption
    | _ => exact hy

/-- What stands in a table that is a document are **documents**. -/
theorem entriesOf (h : IsDocument w depth v) : ∀ e ∈ entriesOf v, IsDocument w depth e.2 := by
  intro e he
  cases h with
  | table documents => exact (documents e he).succ
  | _ => cases he

/-- What stands **under a name** of a document is one, also if nothing stands there. -/
theorem part (h : IsDocument w depth (.dict m)) (name : String) :
    IsDocument w depth (part m name) := by
  rw [Settings.part]
  rcases found : m.find? name with _ | v
  · cases h with
    | table _ => exact .table nofun
  · exact h.entriesOf _ (Members.mem_of_find? found)

/-! ### Texts -/

/-- The class of a moment is the native one of its name. -/
theorem classOf_moment {i : ObjectId} {o : ObjectRec} {name : String}
    (object : w.objects[i]? = some o) (cls : o.cls = .native (.named name)) :
    w.classOf (.object i) = .native (.named name) := by
  rw [World.classOf, object, Option.elim_some, cls]

/-- A moment is no text. -/
theorem content?_moment {i : ObjectId} {o : ObjectRec} {name : String}
    (object : w.objects[i]? = some o) (cls : o.cls = .native (.named name)) :
    w.content? (.object i) = none := by
  rw [World.content?, classOf_moment object cls]
  rfl

/-- A moment holds no items. -/
theorem heldItems?_moment {i : ObjectId} {o : ObjectRec} {name : String}
    (object : w.objects[i]? = some o) (cls : o.cls = .native (.named name)) :
    w.heldItems? (.object i) = none := by
  rw [World.heldItems?.eq_def, content?_moment object cls, classOf_moment object cls]
  rfl

/-- A document is **inert**: no code of the world writes its text. -/
theorem inert (h : IsDocument w depth v) : w.Inert (depth + 1) v := by
  induction h with
  | @moment depth i o name object cls payload =>
    have kind := classOf_moment object cls
    have lists : w.listedParts (.object i) = [] := by
      rw [World.listedParts, heldItems?_moment object cls, Option.getD_none]
      split <;> rfl
    refine World.inert_of_native kind (by rw [World.holdsParts, kind]; rfl) ?_
    simp [World.shownParts, object, payload, cls, lists]
  | array _ ih => exact World.inert_of_native rfl rfl ih
  | table _ ih => exact World.inert_of_native rfl rfl (List.forall_mem_map.2 ih)
  | _ => exact World.inert_of_native rfl rfl fun _ part => absurd part List.not_mem_nil

section Texts

variable (h : IsDocument w depth v) {budget : Nat} (enough : depth ≤ budget)
include h enough

/-- A document **is put into words** without code. -/
theorem outcome_quotedText :
    ∃ s, (v.quotedText (Interpreter.runner (budget + 1))).outcome w = (.ok s, w) :=
  h.inert.outcome_quotedText (Nat.succ_le_succ enough)

/-- A document has a plain text. -/
theorem outcome_plainText :
    ∃ s, (v.plainText (Interpreter.runner (budget + 1))).outcome w = (.ok s, w) := by
  refine h.inert.outcome_plainText ?_ (Nat.succ_le_succ enough)
  cases h with
  | moment _ object cls _ => exact World.ownHook?_native (classOf_moment object cls) (by decide)
  | _ => exact World.ownHook?_native rfl (by decide)

end Texts

/-! ### Faults -/

/-- A moment **cannot be gone through**. -/
theorem outcome_items_moment {i : ObjectId} {o : ObjectRec} {name : String}
    (object : w.objects[i]? = some o) (cls : o.cls = .native (.named name)) :
    ((Value.object i).items).outcome w = (.error (.raised (.notIterable name)), w) := by
  have kind := classOf_moment object cls
  rw [Value.items, Value.itemsByClass, Run.outcome_bind_of_ok (Run.outcome_reading _ w),
    Run.outcome_bind_of_ok (Run.outcome_reading _ w),
    Run.outcome_bind_of_ok (Run.outcome_reading _ w), World.ownHook?_native kind (by decide),
    World.ownHook?_native kind (by decide), heldItems?_moment object cls]
  dsimp only
  rw [classNameOf, Run.outcome_bind_of_ok (Run.outcome_reading _ w), kind]
  rfl

/-- The faults of a document that is taken for a **table of settings** are met. -/
theorem meets_settingsOf (h : IsDocument w depth v) (place : String) :
    (settingsOf place v).Meets w (settingsFaults v) (· = Settings.entriesOf v) := by
  cases h with
  | str _ s => exact meets_settingsOf_text place s
  | @array _ items _ => exact meets_settingsOf_array place items
  | @table _ entries _ => exact meets_settingsOf_table place entries
  | moment _ object cls _ =>
    have refused := outcome_items_moment object cls
    exact .of_error (Run.outcome_bind_of_error (Run.outcome_bind_of_error refused)) rfl
  | _ => exact .of_error rfl rfl

/-- The faults of a document that is taken for a table of **profiles** are met. -/
theorem meets_profilesOf (h : IsDocument w depth v) (place : String → String) :
    (profilesOf v place).Meets w (profilesFaults v)
      (· = (Settings.entriesOf v).map fun e => (e.1, Settings.entriesOf e.2)) := by
  cases h with
  | table documents =>
    exact meets_profilesOf_table fun e he => (documents e he).meets_settingsOf _
  | _ => exact .of_error rfl rfl

end IsDocument

/-- What stands in a table among documents are **documents**. -/
theorem documents_tableIn {w : World} {depth : Nat} {t : Members}
    (ht : ∀ e ∈ t, IsDocument w depth e.2) (name : String) :
    ∀ e ∈ tableIn t name, IsDocument w depth e.2 := by
  rw [tableIn_eq, part]
  rcases found : t.find? name with _ | v
  · exact nofun
  · exact (ht _ (Members.mem_of_find? found)).entriesOf

/-- What a table within a document holds are documents. -/
theorem IsDocument.tableIn {w : World} {depth : Nat} {m : Members}
    (h : IsDocument w depth (.dict m)) (name : String) :
    ∀ e ∈ tableIn m name, IsDocument w depth e.2 :=
  documents_tableIn h.entriesOf name

/-- Documents laid over documents are **documents**. -/
theorem documents_overlay {w : World} {depth : Nat} {t u : Members}
    (ht : ∀ e ∈ t, IsDocument w depth e.2) (hu : ∀ e ∈ u, IsDocument w depth e.2) :
    ∀ e ∈ overlay t u, IsDocument w depth e.2 :=
  forall_mem_overlay (fun _ _ _ low high => low.overlay high) ht hu

end Settings

end OrderedScope
