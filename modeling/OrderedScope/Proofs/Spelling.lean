import OrderedScope.Proofs.Documents

/-!
# What Settings Files Spell

The text of a settings file is read as a list of statements, and the statements build a document.
Whatever is read is a document: texts, numbers and truth values, with arrays and tables around them.

## Main results

* `spells_of_readValue?`: what is read as a value is a document.
* `spells_of_readDocument?`: so is what a text spells.
-/

namespace OrderedScope

namespace Settings

variable {w : World} {depth : Nat} {v : Value} {m : Members}

/-- A document is one of **any greater depth** as well. -/
theorem IsDocument.mono (h : IsDocument w depth v) {more : Nat} (deeper : depth ≤ more) :
    IsDocument w more v := by
  induction deeper with
  | refl => exact h
  | step _ ih => exact ih.succ

/-- A value is a document of **some depth**. -/
def Spells (w : World) (v : Value) : Prop := ∃ depth, IsDocument w depth v

/-- Some documents are documents of **one depth**. -/
theorem exists_depth {α : Type} {l : List α} {f : α → Value} (h : ∀ a ∈ l, Spells w (f a)) :
    ∃ depth, ∀ a ∈ l, IsDocument w depth (f a) := by
  induction l with
  | nil => exact ⟨0, nofun⟩
  | cons a rest ih =>
    rw [List.forall_mem_cons] at h
    obtain ⟨⟨first, here⟩, others⟩ := h
    obtain ⟨depth, there⟩ := ih others
    refine ⟨max first depth, List.forall_mem_cons.2 ⟨here.mono (Nat.le_max_left ..), ?_⟩⟩
    exact fun b hb => (there b hb).mono (Nat.le_max_right ..)

/-- An array spells if its items do. -/
theorem Spells.array {items : List Value} (h : ∀ v ∈ items, Spells w v) :
    Spells w (.list items) := by
  obtain ⟨depth, documents⟩ := exists_depth h
  exact ⟨depth + 1, .array documents⟩

/-- A table spells if its values do. -/
theorem Spells.table (h : ∀ e ∈ m, Spells w e.2) : Spells w (.dict m) := by
  obtain ⟨depth, documents⟩ := exists_depth h
  exact ⟨depth + 1, .table documents⟩

/-- What stands in a table that is a document are **documents**. -/
theorem Spells.entries (h : Spells w (.dict m)) : ∀ e ∈ m, Spells w e.2 := by
  obtain ⟨depth, document⟩ := h
  exact fun e he => ⟨depth, document.entriesOf e he⟩

/-- Documents are **put** into a table of documents. -/
theorem spells_put {name : String} (h : ∀ e ∈ m, Spells w e.2) (hv : Spells w v) :
    ∀ e ∈ m.put name v, Spells w e.2 := by
  intro e he
  rw [Members.put] at he
  split at he
  · obtain ⟨old, hold, rfl⟩ := List.mem_map.1 he
    split
    · exact hv
    · exact h old hold
  · obtain he | he := List.mem_append.1 he
    · exact h e he
    · obtain rfl := List.mem_singleton.1 he
      exact hv

namespace Document

/-! ### Reading -/

/-- A number that is read in a base spells. -/
theorem spells_of_readBased? {base : Nat} {cs rest : List Char}
    (h : readBased? base cs = some (v, rest)) : Spells w v := by
  simp only [readBased?] at h
  split at h
  · split at h
    · cases h
      exact ⟨0, .int _ _⟩
    · cases h
  · cases h

/-- A decimal number that is read spells. -/
theorem spells_of_readDecimal? {cs rest : List Char} (h : readDecimal? cs = some (v, rest)) :
    Spells w v := by
  simp only [readDecimal?] at h
  repeat' split at h
  all_goals
    first
    | (cases h; done)
    | (cases h; exact ⟨0, .float _ _⟩)
    | (cases h; exact ⟨0, .int _ _⟩)

/-- A number that is read **spells**. -/
theorem spells_of_readNumber? {cs rest : List Char} (h : readNumber? cs = some (v, rest)) :
    Spells w v := by
  rw [readNumber?.eq_def] at h
  split at h
  · exact spells_of_readBased? h
  · exact spells_of_readBased? h
  · exact spells_of_readBased? h
  · exact spells_of_readDecimal? h

/-! ### Building -/

/-- Where documents stand, a document is **put** at a path, with the tables on the way to it. -/
theorem spells_of_putAt {path : List String} {t : Members} (h : ∀ e ∈ m, Spells w e.2)
    (hv : Spells w v) (made : putAt m path v = some t) : ∀ e ∈ t, Spells w e.2 := by
  fun_induction putAt m path v generalizing t with
  | case1 => cases made
  | case2 => cases made
  | case3 m name fresh =>
    cases made
    exact spells_put h hv
  | case4 m name rest long missing ih =>
    obtain ⟨inner, opened, rfl⟩ := Option.map_eq_some_iff.1 made
    exact spells_put h (.table (ih nofun opened))
  | case5 m name rest long table found ih =>
    obtain ⟨inner, opened, rfl⟩ := Option.map_eq_some_iff.1 made
    exact spells_put h (.table (ih (h (name, _) (Members.mem_of_find? found)).entries opened))
  | case6 => cases made

/-- To open a table within one that spells keeps it spelling. -/
theorem spells_of_openAt {path : List String} {t : Members} (h : ∀ e ∈ m, Spells w e.2)
    (made : openAt m path = some t) : ∀ e ∈ t, Spells w e.2 := by
  fun_induction openAt m path generalizing t with
  | case1 =>
    cases made
    exact h
  | case2 m name rest missing ih =>
    obtain ⟨inner, opened, rfl⟩ := Option.map_eq_some_iff.1 made
    exact spells_put h (.table (ih nofun opened))
  | case3 m name rest table found ih =>
    obtain ⟨inner, opened, rfl⟩ := Option.map_eq_some_iff.1 made
    exact spells_put h (.table (ih (h (name, _) (Members.mem_of_find? found)).entries opened))
  | case4 => cases made

/-! ### Values -/

mutual

/-- A value that is read **spells**. -/
theorem spells_of_readValue? :
    ∀ {fuel : Nat} {cs rest : List Char} {v : Value},
      readValue? fuel cs = some (v, rest) → Spells w v
  | 0, _, _, _, h => by
    rw [readValue?] at h
    cases h
  | fuel + 1, cs, rest, v, h => by
    rw [readValue?.eq_def] at h
    simp only at h
    split at h
    · obtain ⟨⟨s, rest'⟩, -, same⟩ := Option.map_eq_some_iff.1 h
      cases same
      exact ⟨0, .str _ s⟩
    · obtain ⟨⟨s, rest'⟩, -, same⟩ := Option.map_eq_some_iff.1 h
      cases same
      exact ⟨0, .str _ s⟩
    · cases h
      exact ⟨0, .bool _ true⟩
    · cases h
      exact ⟨0, .bool _ false⟩
    · obtain ⟨⟨items, rest'⟩, read, ⟨⟩⟩ := Option.map_eq_some_iff.1 h
      exact .array (spells_of_readItems? read)
    · split at h
      · cases h
        exact .table nofun
      · obtain ⟨⟨fields, rest'⟩, read, ⟨⟩⟩ := Option.map_eq_some_iff.1 h
        exact .table (spells_of_readFields? (List.forall_mem_nil _) read)
    · exact spells_of_readNumber? h

/-- Items that are read spell. -/
theorem spells_of_readItems? :
    ∀ {fuel : Nat} {cs rest : List Char} {items : List Value},
      readItems? fuel cs = some (items, rest) → ∀ v ∈ items, Spells w v
  | 0, _, _, _, h => by
    rw [readItems?] at h
    cases h
  | fuel + 1, cs, rest, items, h => by
    rw [readItems?.eq_def] at h
    simp only at h
    split at h
    · cases h
      exact nofun
    · obtain ⟨⟨item, rest'⟩, read, h⟩ := Option.bind_eq_some_iff.1 h
      have first : Spells w item := spells_of_readValue? read
      simp only at h
      split at h
      · obtain ⟨⟨others, rest'⟩, read, ⟨⟩⟩ := Option.map_eq_some_iff.1 h
        exact List.forall_mem_cons.2 ⟨first, spells_of_readItems? read⟩
      · cases h
        exact List.forall_mem_singleton.2 first
      · cases h

/-- Fields that are read spell. -/
theorem spells_of_readFields? :
    ∀ {fuel : Nat} {done m : Members} {cs rest : List Char}, (∀ e ∈ done, Spells w e.2) →
      readFields? fuel done cs = some (m, rest) → ∀ e ∈ m, Spells w e.2
  | 0, _, _, _, _, _, h => by
    rw [readFields?] at h
    cases h
  | fuel + 1, done, m, cs, rest, hd, h => by
    rw [readFields?.eq_def] at h
    obtain ⟨⟨path, behind⟩, -, h⟩ := Option.bind_eq_some_iff.1 h
    simp only at h
    split at h
    · obtain ⟨⟨v, behind⟩, read, h⟩ := Option.bind_eq_some_iff.1 h
      obtain ⟨more, made, h⟩ := Option.bind_eq_some_iff.1 h
      have documents := spells_of_putAt hd (spells_of_readValue? read) made
      simp only at h
      split at h
      · exact spells_of_readFields? documents h
      · cases h
        exact documents
      · cases h
    · cases h

end

/-! ### Statements -/

/-- A statement **spells** documents if the value in it, if any, is one. -/
def spellsIn (w : World) : Statement → Prop
  | .table _ => True
  | .entry _ v => Spells w v

/-- A statement that is read holds what spells. -/
theorem spellsIn_of_readStatement? {cs rest : List Char} {s : Statement}
    (h : readStatement? cs = some (s, rest)) : spellsIn w s := by
  rw [readStatement?.eq_def] at h
  split at h
  · obtain ⟨⟨path, behind⟩, -, h⟩ := Option.bind_eq_some_iff.1 h
    simp only at h
    split at h
    · obtain ⟨line, -, same⟩ := Option.bind_eq_some_iff.1 h
      cases same
      trivial
    · cases h
  · obtain ⟨⟨path, behind⟩, -, h⟩ := Option.bind_eq_some_iff.1 h
    simp only at h
    split at h
    · obtain ⟨⟨v, behind⟩, read, h⟩ := Option.bind_eq_some_iff.1 h
      obtain ⟨line, -, same⟩ := Option.bind_eq_some_iff.1 h
      cases same
      exact spells_of_readValue? read
    · cases h

/-- Statements that are read hold what spells. -/
theorem spellsIn_of_readStatements? {fuel : Nat} {cs : List Char} {l : List Statement}
    (h : readStatements? fuel cs = some l) : ∀ s ∈ l, spellsIn w s := by
  induction fuel generalizing cs l with
  | zero =>
    rw [readStatements?] at h
    split at h
    · cases h
      exact nofun
    · cases h
  | succ fuel ih =>
    rw [readStatements?] at h
    split at h
    · cases h
      exact nofun
    · obtain ⟨⟨s, behind⟩, read, h⟩ := Option.bind_eq_some_iff.1 h
      obtain ⟨others, more, same⟩ := Option.bind_eq_some_iff.1 h
      cases same
      exact List.forall_mem_cons.2 ⟨spellsIn_of_readStatement? read, ih more⟩

/-- A statement **adds** documents to a draft. -/
theorem spells_of_add {d d' : Draft} {s : Statement} (h : ∀ e ∈ d.content, Spells w e.2)
    (hs : spellsIn w s) (added : d.add s = some d') : ∀ e ∈ d'.content, Spells w e.2 := by
  cases s with
  | table path =>
    rw [Draft.add] at added
    split at added
    · cases added
    · obtain ⟨content, opened, rfl⟩ := Option.map_eq_some_iff.1 added
      exact spells_of_openAt h opened
  | entry path v =>
    simp only [Draft.add] at added
    split at added
    · cases added
    · obtain ⟨content, made, rfl⟩ := Option.map_eq_some_iff.1 added
      exact spells_of_putAt h hs made

/-- A document that is built of statements that spell **spells**. -/
theorem spells_of_foldlM {l : List Statement} {d d' : Draft}
    (h : ∀ e ∈ d.content, Spells w e.2) (hl : ∀ s ∈ l, spellsIn w s)
    (built : l.foldlM Draft.add d = some d') : ∀ e ∈ d'.content, Spells w e.2 := by
  induction l generalizing d with
  | nil =>
    cases built
    exact h
  | cons s rest ih =>
    rw [List.forall_mem_cons] at hl
    rw [List.foldlM_cons] at built
    obtain ⟨next, added, built⟩ := Option.bind_eq_some_iff.1 built
    exact ih (spells_of_add h hl.1 added) hl.2 built

end Document

/-- What a text spells is a **document**. -/
theorem spells_of_readDocument? {text : String} (h : readDocument? text = some m) (w : World) :
    Spells w (.dict m) := by
  obtain ⟨statements, read, h⟩ := Option.bind_eq_some_iff.1 h
  obtain ⟨draft, built, same⟩ := Option.bind_eq_some_iff.1 h
  cases same
  exact .table (Document.spells_of_foldlM (List.forall_mem_nil _)
    (Document.spellsIn_of_readStatements? read) built)

end Settings

end OrderedScope
