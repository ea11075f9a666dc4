import OrderedScope.Error
import OrderedScope.Program

/-!
# The Registry of Visibilities

A visibility names a variant of resolver. Variants are registered one by one; further ones come from
extension points, which are scanned once, at the first question. A point whose name is taken is not
loaded, and a point that fails to load leaves the registry as it was.

## Main results

* `Registry.find?_register_self`: the latest registration under a name is the one that is found.
* `scan_keeps`: a scan never replaces an entry.
-/

namespace OrderedScope

/-- A table of variants by visibility, in the order of first registration. -/
abbrev Variants := List (String × Variant)

/-- Puts a variant under a name: in the place of the old one, or last. -/
def Variants.put (t : Variants) (name : String) (v : Variant) : Variants :=
  if t.any fun e => e.1 == name then t.map fun e => if e.1 == name then (name, v) else e
  else t ++ [(name, v)]

/-- What listing the extension points gives: the points by name, in order, or the error by which the
listing fails. -/
abbrev Listing := Except Error (List (String × PointLoad))

/-- The **registry**: its entries, whether the extension points have been scanned, and the
points. -/
structure Registry where
  entries : Variants
  loaded : Bool
  points : Listing

/-- What a **scan** of extension points did: the entries it left, the points it loaded, those of
them that failed, and the error that ended it early. -/
structure Scan where
  entries : Variants
  loads : List String
  failed : List String
  stopped : Option Error

/-- Scans extension points in order. An ordinary failure of a load is noted; any other error ends
the scan. -/
def scan : List (String × PointLoad) → Variants → Scan
  | [], entries => ⟨entries, [], [], none⟩
  | (name, load) :: rest, entries =>
    if entries.any fun e => e.1 == name then scan rest entries
    else
      match load with
      | .gives v =>
        let s := scan rest (entries.put name v)
        { s with loads := name :: s.loads }
      | .raises kind text =>
        if kind.isA .failure then
          let s := scan rest entries
          { s with loads := name :: s.loads, failed := name :: s.failed }
        else ⟨entries, [name], [], some (.raised kind text)⟩

namespace Registry

/-- The registry of a fresh session. -/
def initial : Registry := ⟨[("private", .privateOne), ("public", .publicOne)], false, .ok []⟩

/-- The group of the extension points. -/
def pointGroup : String := "symbiosis.triggers"

/-- Registers a variant. -/
def register (r : Registry) (name : String) (v : Variant) : Registry :=
  { r with entries := r.entries.put name v }

/-- The variant under a name, as far as it is known. -/
def find? (r : Registry) (name : String) : Option Variant := r.entries.lookup name

/-- The known names. -/
def names (r : Registry) : List String := r.entries.map (·.1)

/-- Lists the extension points and scans them. Without a list there is nothing to scan. -/
def scanPoints (r : Registry) : Scan :=
  match r.points with
  | .ok points => scan points r.entries
  | .error e => ⟨r.entries, [], [], some e⟩

/-- Scans the extension points unless that has been done. The scan counts as done from its start. -/
def load (r : Registry) : Registry × Option Scan :=
  if r.loaded then (r, none)
  else ({ r with entries := r.scanPoints.entries, loaded := true }, some r.scanPoints)

/-! ### Laws -/

/-- The **latest** registration under a name is the one that is found. -/
theorem find?_register_self (r : Registry) (name : String) (v : Variant) :
    (r.register name v).find? name = some v := by
  obtain ⟨entries, loaded, points⟩ := r
  simp only [register, find?, Variants.put]
  induction entries with
  | nil => simp
  | cons e rest ih =>
    obtain ⟨key, w⟩ := e
    by_cases h : key = name
    · simp [h]
    · split <;> rename_i hany <;> simp_all [List.lookup_cons, beq_false_of_ne (Ne.symm h)]

/-- What is put under a name changes no other name. -/
theorem find?_put_of_ne {t : Variants} {name other : String} (v : Variant) (h : other ≠ name) :
    (t.put name v).lookup other = t.lookup other := by
  unfold Variants.put
  split
  · rename_i hany
    clear hany
    induction t with
    | nil => rfl
    | cons e rest ih =>
      obtain ⟨key, w⟩ := e
      by_cases hk : key = name
      · subst hk
        simpa [List.lookup_cons, beq_false_of_ne h] using ih
      · simp only [List.map_cons, beq_false_of_ne hk, Bool.false_eq_true, ↓reduceIte,
          List.lookup_cons]
        split <;> simp_all
  · induction t with
    | nil => simp [List.lookup_cons, beq_false_of_ne h]
    | cons e rest ih =>
      obtain ⟨key, w⟩ := e
      simp only [List.cons_append, List.lookup_cons]
      split <;> simp_all

end Registry

/-- A name without an entry has no variant. -/
private theorem lookup_eq_none_of_not_any {t : Variants} {name : String}
    (h : ¬ (t.any fun e => e.1 == name) = true) : t.lookup name = none := by
  induction t with
  | nil => rfl
  | cons e rest ih =>
    obtain ⟨key, w⟩ := e
    simp only [List.any_cons, Bool.or_eq_true, beq_iff_eq, not_or] at h
    simp [List.lookup_cons, beq_false_of_ne (Ne.symm h.1), ih h.2]

/-- A scan **never replaces** an entry. -/
theorem scan_keeps (points : List (String × PointLoad)) {entries : Variants} {name : String}
    {v : Variant} (h : entries.lookup name = some v) :
    (scan points entries).entries.lookup name = some v := by
  have keep {entries : Variants} {point : String} (w : Variant)
      (h : entries.lookup name = some v) (free : ¬ (entries.any fun e => e.1 == point) = true) :
      (entries.put point w).lookup name = some v := by
    have ne : name ≠ point := by
      rintro rfl
      simp [lookup_eq_none_of_not_any free] at h
    rw [Registry.find?_put_of_ne w ne, h]
  induction points generalizing entries with
  | nil => exact h
  | cons p rest ih =>
    obtain ⟨point, load⟩ := p
    unfold scan
    split
    · exact ih h
    · next free =>
      cases load with
      | gives w => exact ih (keep w h free)
      | raises kind text =>
        simp only
        split
        · exact ih h
        · exact h

/-- Neither does a listing and what is scanned of it. -/
theorem Registry.scanPoints_keeps (r : Registry) {name : String} {v : Variant}
    (h : r.find? name = some v) : r.scanPoints.entries.lookup name = some v := by
  unfold scanPoints
  cases r.points with
  | ok points => exact scan_keeps points h
  | error e => exact h

end OrderedScope
