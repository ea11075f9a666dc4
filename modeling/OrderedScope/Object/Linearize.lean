/-!
# Resolution Lines

The line in which a class and the classes above it are searched for a member. The line of a class is
merged from the lines of its bases and the list of the bases themselves: the next class is the first
head of a list that stands in no other list behind the head.

## Main results

* `mem_of_mem_merge`: a merged line holds nothing but members of the merged lists.
-/

namespace OrderedScope

section Merge

variable {α : Type} [DecidableEq α]

/-- The first head of a list that stands in no list behind the head. -/
def goodHead? (lists : List (List α)) : Option α :=
  lists.findSome? fun l =>
    match l with
    | [] => none
    | a :: _ => if lists.all fun m => !m.tail.contains a then some a else none

/-- Removes a head from the lists that start with it. -/
def dropHead (a : α) (lists : List (List α)) : List (List α) :=
  lists.map fun l => if l.head? = some a then l.tail else l

/-- The **merge** of some lists in at most `steps` steps; `none` if no head is good. -/
def mergeLines : Nat → List (List α) → Option (List α)
  | 0, _ => some []
  | steps + 1, lists =>
    if lists.all List.isEmpty then some []
    else
      match goodHead? lists with
      | none => none
      | some a => (mergeLines steps (dropHead a lists)).map (a :: ·)

/-- The **resolution line** of a class over its bases, each with its own line. -/
def linearize (self : α) (bases : List (α × List α)) : Option (List α) :=
  let lists := bases.map (·.2) ++ [bases.map (·.1)]
  (mergeLines lists.flatten.length lists).map (self :: ·)

/-! ### Laws -/

/-- A good head stands in one of the lists. -/
theorem mem_of_goodHead? {lists : List (List α)} {a : α} (h : goodHead? lists = some a) :
    ∃ l ∈ lists, a ∈ l := by
  obtain ⟨l, hl, ha⟩ := List.exists_of_findSome?_eq_some h
  refine ⟨l, hl, ?_⟩
  cases l with
  | nil => simp at ha
  | cons b rest =>
    simp only [Option.ite_none_right_eq_some, Option.some.injEq] at ha
    simp [ha.2]

/-- What is left when a head is dropped stood there before. -/
theorem mem_of_mem_dropHead {lists : List (List α)} {a b : α}
    (h : ∃ l ∈ dropHead a lists, b ∈ l) : ∃ l ∈ lists, b ∈ l := by
  obtain ⟨l, hl, hb⟩ := h
  obtain ⟨m, hm, rfl⟩ := List.mem_map.1 hl
  refine ⟨m, hm, ?_⟩
  split at hb
  · exact List.mem_of_mem_tail hb
  · exact hb

/-- A merged line holds **nothing but** members of the merged lists. -/
theorem mem_of_mem_merge {steps : Nat} {lists : List (List α)} {line : List α} {a : α}
    (h : mergeLines steps lists = some line) (ha : a ∈ line) : ∃ l ∈ lists, a ∈ l := by
  induction steps generalizing lists line with
  | zero =>
    obtain rfl : line = [] := by simpa [mergeLines] using h.symm
    simp at ha
  | succ steps ih =>
    unfold mergeLines at h
    split at h
    · obtain rfl : line = [] := by simpa using h.symm
      simp at ha
    · split at h
      · simp at h
      · next b hb =>
        obtain ⟨rest, hrest, rfl⟩ := Option.map_eq_some_iff.1 h
        rcases List.mem_cons.1 ha with rfl | ha
        · exact mem_of_goodHead? hb
        · exact mem_of_mem_dropHead (ih hrest ha)

end Merge

end OrderedScope
