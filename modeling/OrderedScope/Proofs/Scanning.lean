import OrderedScope.Proofs.Outcome
import OrderedScope.Resolution

/-!
# Scans of Extension Points

The first question to the registry scans its extension points: it goes through the points in order,
loads those whose names are free at their turn, and notes the variants that they give. An ordinary
failure of a load is passed over; any other error, of a load or of the listing of the points, ends
the scan where it is.

## Main results

* `outcome_loadRegistry`: what asking the registry does.
* `scan_taken`, `scan_gives`, `scan_fails`, `scan_stops`: what a scan does at a single point.
* `lookup_scan`, `names_scan`, `loads_scan`: what a scan that comes to its end leaves, in terms of
  the list of points.
* `CutShort.of_stopped`: a scan that is ended early has done what a scan of the points before does.
-/

namespace OrderedScope

/-! ### Asking the registry -/

/-- The world with the extension points of its registry scanned. -/
def World.scanned (w : World) : World := { w with registry := w.registry.load.1 }

variable {run : Runner} {w w₁ : World}

/-- A question to the registry **scans** its extension points, and changes nothing else. It fails if
the scan was ended early. -/
theorem outcome_loadRegistry (w : World) :
    loadRegistry.outcome w = (match w.registry.load.2 with
      | none => .ok []
      | some s => s.stopped.elim (.ok s.loads) fun e => .error (.raised e), w.scanned) := by
  have warned (names : List String) (w : World) :
      (forIn names PUnit.unit fun name _ => do
        Run.log .warning ("Failed to load trigger entry point " ++ Text.quote name)
        pure (ForInStep.yield PUnit.unit) : Run PUnit).outcome w = (.ok PUnit.unit, w) := by
    induction names with
    | nil => rfl
    | cons name rest ih =>
      rw [List.forIn_cons, bind_assoc, Run.outcome_bind_of_ok (Run.outcome_log ..)]
      exact ih
  rw [loadRegistry, Run.outcome_bind_of_ok (Run.outcome_reading _ w)]
  rcases loads : w.registry.load with ⟨registry, done⟩
  have after : { w with registry := registry } = w.scanned := by rw [World.scanned, loads]
  simp only
  rw [Run.outcome_bind_of_ok (Run.outcome_modify _ w), after]
  cases done with
  | none => rfl
  | some s =>
    simp only
    rw [Run.outcome_bind_of_ok (warned s.failed _)]
    cases s.stopped <;> rfl

/-- Once the extension points have been scanned a question to the registry does **nothing**. -/
theorem outcome_loadRegistry_of_scanned (h : w.registry.loaded = true) :
    loadRegistry.outcome w = (.ok [], w) := by
  have loads : w.registry.load = (w.registry, none) := by
    rw [Registry.load, if_pos h]
  rw [outcome_loadRegistry, World.scanned, loads]

/-! ### Scans -/

/-- The variant that a load gives, if it does not raise. -/
def PointLoad.given? : PointLoad → Option Variant
  | gives v => some v
  | raises .. => none

/-- A load is **ordinary** if it does not raise, or raises an ordinary failure. -/
def PointLoad.Ordinary : PointLoad → Prop
  | gives _ => True
  | raises kind _ => kind.isA .failure = true

instance (load : PointLoad) : Decidable load.Ordinary := by
  cases load <;> unfold PointLoad.Ordinary <;> infer_instance

/-- The variant of the **first point** of a name whose load gives one. -/
def firstGiven? (points : List (String × PointLoad)) (name : String) : Option Variant :=
  points.findSome? fun p => if p.1 = name then p.2.given? else none

/-- The names of the points whose loads give a variant, in order. -/
def givenNames (points : List (String × PointLoad)) : List String :=
  (points.filter fun p => p.2.given?.isSome).map (·.1)

/-- Whether the name of a point is **free at its turn**: neither taken from the start nor by a point
before it whose load gave a variant. -/
def freeAt (taken : List String) (points : List (String × PointLoad))
    (p : (String × PointLoad) × Nat) : Bool :=
  !taken.contains p.1.1 && !(givenNames (points.take p.2)).contains p.1.1

/-- The names of the points that a scan **loads** where some names are taken, in order. -/
def loadedNames (taken : List String) (points : List (String × PointLoad)) : List String :=
  (points.zipIdx.filter (freeAt taken points)).map (·.1.1)

/-- One more point gives its name if it gives a variant. -/
theorem givenNames_concat (points : List (String × PointLoad)) (name : String)
    (load : PointLoad) : givenNames (points ++ [(name, load)]) =
      givenNames points ++ if load.given?.isSome then [name] else [] := by
  rw [givenNames, List.filter_append, List.map_append]
  cases load <;> rfl

/-- At its turn a point is free if its name is none of those that **stand in the table** then. -/
theorem freeAt_turn {names taken : List String} {done : List (String × PointLoad)}
    (h : ∀ name, names.contains name = (taken.contains name || (givenNames done).contains name))
    (p : String × PointLoad) (rest : List (String × PointLoad)) :
    freeAt taken (done ++ p :: rest) (p, done.length) = !names.contains p.1 := by
  have turn : (done ++ p :: rest).take done.length = done := List.take_left
  rw [freeAt, turn, h, Bool.not_or]

/-- Which points are loaded depends on **which** names are taken, not on their order. -/
theorem loadedNames_congr {taken taken' : List String} (points : List (String × PointLoad))
    (h : ∀ name, name ∈ taken ↔ name ∈ taken') :
    loadedNames taken points = loadedNames taken' points := by
  have same (name : String) : taken.contains name = taken'.contains name := by
    rw [Bool.eq_iff_iff, List.contains_iff_mem, List.contains_iff_mem]
    exact h name
  have free : freeAt taken points = freeAt taken' points := by
    funext p
    simp only [freeAt, same]
  rw [loadedNames, loadedNames, free]

namespace Variants

variable {t : Variants} {name : String}

/-- The names of a table. -/
def names (t : Variants) : List String := t.map (·.1)

/-- A table has an entry of a name exactly if it lists the name. -/
theorem any_eq_contains (t : Variants) (name : String) :
    (t.any fun e => e.1 == name) = t.names.contains name := by
  rw [names, List.contains_eq_any_beq, List.any_map]
  congr 1
  funext e
  exact Bool.beq_comm

/-- What is put under a name is found there, and nothing else changes. -/
theorem lookup_put (t : Variants) (name : String) (v : Variant) (other : String) :
    (t.put name v).lookup other = if other = name then some v else t.lookup other := by
  split
  · next h =>
    subst h
    exact Registry.find?_register_self ⟨t, false, .ok []⟩ other v
  · next h => exact Registry.find?_put_of_ne v h

/-- A name that is put stands **last**, unless it stands in the table already. -/
theorem names_put (t : Variants) (name : String) (v : Variant) :
    (t.put name v).names = if t.names.contains name then t.names else t.names ++ [name] := by
  rw [put, any_eq_contains]
  split
  · rw [names, names, List.map_map]
    refine List.map_congr_left fun e _ => ?_
    by_cases h : e.1 = name <;> simp [h]
  · simp [names]

/-- A free name has no variant. -/
theorem lookup_eq_none_of_free (h : t.names.contains name = false) : t.lookup name = none := by
  induction t with
  | nil => rfl
  | cons e rest ih =>
    obtain ⟨key, v⟩ := e
    rw [names, List.map_cons, List.contains_cons, Bool.or_eq_false_iff] at h
    rw [List.lookup_cons, h.1]
    exact ih h.2

/-- A taken name has one. -/
theorem lookup_isSome_of_taken (h : t.names.contains name = true) :
    ∃ v, t.lookup name = some v := by
  induction t with
  | nil => cases h
  | cons e rest ih =>
    obtain ⟨key, v⟩ := e
    rw [names, List.map_cons, List.contains_cons, Bool.or_eq_true_iff] at h
    rw [List.lookup_cons]
    cases same : name == key with
    | true => exact ⟨v, rfl⟩
    | false => exact ih (h.resolve_left (by simp [same]))

end Variants

/-- The names of a table are those that are **found** in it. -/
theorem Variants.mem_names_iff {t : Variants} {name : String} :
    name ∈ t.names ↔ (t.lookup name).isSome := by
  rw [← List.contains_iff_mem]
  cases taken : t.names.contains name with
  | true =>
    obtain ⟨v, found⟩ := lookup_isSome_of_taken taken
    simp [found]
  | false => simp [lookup_eq_none_of_free taken]

/-- One more name counts if it is new. -/
theorem eraseDups_concat (l : List String) (name : String) :
    (l ++ [name]).eraseDups = if l.contains name then l.eraseDups else l.eraseDups ++ [name] := by
  rw [List.eraseDups_append]
  by_cases h : name ∈ l <;> simp [List.removeAll, h, List.eraseDups_cons]

/-- Without repetitions no name stands twice. -/
theorem nodup_eraseDups (l : List String) : l.eraseDups.Nodup := by
  induction hl : l.length using Nat.strongRecOn generalizing l with
  | ind n ih =>
    cases l with
    | nil => exact List.nodup_nil
    | cons a rest =>
      rw [List.eraseDups_cons, List.nodup_cons]
      refine ⟨fun member => ?_, ih _ ?_ _ rfl⟩
      · simpa using List.mem_eraseDups.1 member
      · rw [← hl]
        exact Nat.lt_succ_of_le (List.length_filter_le ..)

section Step

variable {entries : Variants} {name : String} (rest : List (String × PointLoad))

/-- A point whose name is taken at its turn is **passed over**. -/
theorem scan_taken (load : PointLoad) (taken : entries.names.contains name = true) :
    scan ((name, load) :: rest) entries = scan rest entries := by
  rw [scan.eq_def]
  exact if_pos ((Variants.any_eq_contains entries name).trans taken)

variable (free : entries.names.contains name = false)
include free

/-- A point that gives a variant **registers** it, and the scan goes on. -/
theorem scan_gives (v : Variant) :
    scan ((name, .gives v) :: rest) entries =
      { scan rest (entries.put name v) with
        loads := name :: (scan rest (entries.put name v)).loads } := by
  rw [scan, Variants.any_eq_contains, if_neg (Bool.eq_false_iff.1 free)]

/-- A load that fails in the ordinary way is **noted**, and the scan goes on. -/
theorem scan_fails {kind : Kind} (text : String) (handled : kind.isA .failure = true) :
    scan ((name, .raises kind text) :: rest) entries =
      { scan rest entries with
        loads := name :: (scan rest entries).loads
        failed := name :: (scan rest entries).failed } := by
  rw [scan, Variants.any_eq_contains, if_neg (Bool.eq_false_iff.1 free)]
  exact if_pos handled

/-- Any other error **ends** the scan. -/
theorem scan_stops {kind : Kind} (text : String) (unhandled : kind.isA .failure = false) :
    scan ((name, .raises kind text) :: rest) entries =
      ⟨entries, [name], [], some (.raised kind text)⟩ := by
  rw [scan, Variants.any_eq_contains, if_neg (Bool.eq_false_iff.1 free)]
  exact if_neg (Bool.eq_false_iff.1 unhandled)

end Step

/-- A scan **comes to its end**: every load on the way, of a point whose name is free at its turn,
gives a variant or fails in the ordinary way. -/
inductive ScanEnds : List (String × PointLoad) → Variants → Prop
  | nil (entries : Variants) : ScanEnds [] entries
  | taken {rest : List (String × PointLoad)} {entries : Variants} {name : String}
      (load : PointLoad) : entries.names.contains name = true → ScanEnds rest entries →
      ScanEnds ((name, load) :: rest) entries
  | gives {rest : List (String × PointLoad)} {entries : Variants} {name : String} (v : Variant) :
      entries.names.contains name = false → ScanEnds rest (entries.put name v) →
      ScanEnds ((name, .gives v) :: rest) entries
  | fails {rest : List (String × PointLoad)} {entries : Variants} {name : String} {kind : Kind}
      (text : String) : entries.names.contains name = false → kind.isA .failure = true →
      ScanEnds rest entries → ScanEnds ((name, .raises kind text) :: rest) entries

/-- A scan of points with ordinary loads comes to its end. -/
theorem ScanEnds.of_ordinary {points : List (String × PointLoad)}
    (ordinary : ∀ p ∈ points, p.2.Ordinary) (entries : Variants) : ScanEnds points entries := by
  induction points generalizing entries with
  | nil => exact .nil entries
  | cons p rest ih =>
    obtain ⟨name, load⟩ := p
    rw [List.forall_mem_cons] at ordinary
    cases free : entries.names.contains name with
    | true => exact .taken load free (ih ordinary.2 entries)
    | false =>
      cases load with
      | gives v => exact .gives v free (ih ordinary.2 _)
      | raises kind text => exact .fails text free ordinary.1 (ih ordinary.2 entries)

namespace ScanEnds

variable {points : List (String × PointLoad)} {entries : Variants}

/-- A scan that comes to its end was not stopped. -/
theorem stopped (h : ScanEnds points entries) : (scan points entries).stopped = none := by
  induction h with
  | nil => rfl
  | taken load hit _ ih => rw [scan_taken _ load hit, ih]
  | gives v free _ ih => rw [scan_gives _ free, ih]
  | fails text free handled _ ih => rw [scan_fails _ free text handled, ih]

/-- What is found after a scan: the old entry, else the **first variant** that a point of the name
gave. -/
theorem lookup_scan (h : ScanEnds points entries) (name : String) :
    (scan points entries).entries.lookup name =
      (entries.lookup name).or (firstGiven? points name) := by
  have first (point : String) (load : PointLoad) (rest : List (String × PointLoad)) :
      firstGiven? ((point, load) :: rest) name =
        ((if point = name then load.given? else none).or (firstGiven? rest name)) := by
    rw [firstGiven?, List.findSome?_cons]
    split <;> simp_all [firstGiven?]
  induction h with
  | nil => exact (Option.or_none).symm
  | taken load hit _ ih =>
    rw [scan_taken _ load hit, ih, first]
    split
    · next same =>
      -- The entry under a name that is taken hides what its points give.
      obtain ⟨v, known⟩ := Variants.lookup_isSome_of_taken hit
      rw [← same, known, Option.some_or, Option.some_or]
    · rfl
  | @gives rest entries point v free _ ih =>
    rw [scan_gives _ free, ih, Variants.lookup_put, first]
    by_cases same : name = point
    · subst same
      simp [Variants.lookup_eq_none_of_free free, PointLoad.given?]
    · simp [same, Ne.symm same]
  | fails text free handled _ ih =>
    rw [scan_fails _ free text handled, ih, first]
    simp [PointLoad.given?]

/-- A scan adds the names of the points that **gave a variant**, each behind those before it. -/
theorem names_scan (h : ScanEnds points entries) {known : List String}
    (names : entries.names = known.eraseDups) :
    (scan points entries).entries.names = (known ++ givenNames points).eraseDups := by
  have contains (entries : Variants) (known : List String) (names : entries.names = known.eraseDups)
      (name : String) : entries.names.contains name = known.contains name := by
    rw [names, Bool.eq_iff_iff]
    simp
  have given (point : String) (v : Variant) (rest : List (String × PointLoad))
      (known : List String) : known ++ givenNames ((point, .gives v) :: rest) =
        (known ++ [point]) ++ givenNames rest := by
    simp [givenNames, PointLoad.given?]
  induction h generalizing known with
  | nil => rw [givenNames, List.filter_nil, List.map_nil, List.append_nil]; exact names
  | @taken rest entries point load hit _ ih =>
    rw [scan_taken _ load hit]
    cases load with
    | gives v =>
      rw [given]
      exact ih (by rw [eraseDups_concat, ← contains _ _ names, if_pos hit, names])
    | raises kind text => exact ih names
  | gives v free _ ih =>
    rw [scan_gives _ free, given]
    refine ih ?_
    rw [Variants.names_put, eraseDups_concat, ← contains _ _ names, free, names]
  | fails text free handled _ ih =>
    rw [scan_fails _ free text handled]
    exact ih names

/-- A scan that has come to a point loads, of the points from there on, those whose names are
**free at their turn**. -/
theorem loads_scan_from (h : ScanEnds points entries) {taken : List String}
    (done : List (String × PointLoad)) (names : ∀ name, entries.names.contains name =
      (taken.contains name || (givenNames done).contains name)) :
    (scan points entries).loads =
      ((points.zipIdx done.length).filter (freeAt taken (done ++ points))).map (·.1.1) := by
  -- The points that are left, behind one more point.
  have next (rest done : List (String × PointLoad)) (p : String × PointLoad) :
      (rest.zipIdx (done.length + 1)).filter (freeAt taken (done ++ p :: rest)) =
        (rest.zipIdx (done ++ [p]).length).filter (freeAt taken (done ++ [p] ++ rest)) := by
    rw [List.length_append, List.append_assoc]
    rfl
  induction h generalizing done with
  | nil => rfl
  | @taken rest entries point load hit _ ih =>
    rw [List.zipIdx_cons, List.filter_cons, freeAt_turn names, hit, scan_taken rest load hit, next]
    refine ih _ fun name => ?_
    rw [names, givenNames_concat, List.contains_append, ← Bool.or_assoc]
    by_cases same : name = point
    · subst same
      rw [(names name).symm.trans hit, Bool.true_or]
    · cases load <;> simp [PointLoad.given?, same]
  | @gives rest entries point v free _ ih =>
    rw [List.zipIdx_cons, List.filter_cons, freeAt_turn names, free, scan_gives rest free, next]
    refine congrArg (point :: ·) (ih _ fun name => ?_)
    rw [Variants.names_put, free, givenNames_concat]
    simp only [Bool.false_eq_true, ↓reduceIte, List.contains_append, names, PointLoad.given?,
      Option.isSome_some, Bool.or_assoc]
  | @fails rest entries point kind text free handled _ ih =>
    rw [List.zipIdx_cons, List.filter_cons, freeAt_turn names, free,
      scan_fails rest free text handled, next]
    refine congrArg (point :: ·) (ih _ fun name => ?_)
    rw [names, givenNames_concat]
    simp [PointLoad.given?]

/-- A scan loads **exactly** the points whose names are free at their turn. -/
theorem loads_scan (h : ScanEnds points entries) :
    (scan points entries).loads = loadedNames entries.names points :=
  h.loads_scan_from [] fun _ => (Bool.or_false _).symm

end ScanEnds

/-- Of a point whose load fails **nothing depends**: without it the same is found, and the same
names are put in. -/
theorem givens_of_failing (before after : List (String × PointLoad)) (name : String) (kind : Kind)
    (text : String) :
    firstGiven? (before ++ (name, .raises kind text) :: after) = firstGiven? (before ++ after) ∧
    givenNames (before ++ (name, .raises kind text) :: after) = givenNames (before ++ after) := by
  refine ⟨funext fun other => ?_, ?_⟩
  · simp [firstGiven?, List.findSome?_append, PointLoad.given?]
  · simp [givenNames, List.filter_append, PointLoad.given?]

/-! ### Scans that are cut short -/

/-- The scan of a registry is **cut short** by an error behind some of its points: the points cannot
be listed at all, or the scan gets past these points, and the load of the next one, whose name is
free then, raises an error that is no ordinary failure. -/
inductive CutShort (r : Registry) : List (String × PointLoad) → Error → Prop
  | listing {e : Error} : r.points = .error e → CutShort r [] e
  | load {before after : List (String × PointLoad)} {name text : String} {kind : Kind} :
      r.points = .ok (before ++ (name, .raises kind text) :: after) → ScanEnds before r.entries →
      (scan before r.entries).entries.names.contains name = false → kind.isA .failure = false →
      CutShort r before (.raised kind text)

/-- A scan that gets past some points goes on from **what they left**. -/
theorem ScanEnds.scan_append {before : List (String × PointLoad)} {entries : Variants}
    (h : ScanEnds before entries) (after : List (String × PointLoad)) :
    (scan (before ++ after) entries).entries = (scan after (scan before entries).entries).entries ∧
    (scan (before ++ after) entries).stopped =
      (scan after (scan before entries).entries).stopped := by
  induction h with
  | nil => exact ⟨rfl, rfl⟩
  | taken load hit _ ih => rwa [List.cons_append, scan_taken _ load hit, scan_taken _ load hit]
  | gives v free _ ih => rwa [List.cons_append, scan_gives _ free, scan_gives _ free]
  | fails text free handled _ ih =>
    rwa [List.cons_append, scan_fails _ free text handled, scan_fails _ free text handled]

/-- A scan that does not come to its end is stopped by a **single load**. -/
theorem scanEnds_or_stops (points : List (String × PointLoad)) (entries : Variants) :
    ScanEnds points entries ∨ ∃ before after name kind text,
      points = before ++ (name, .raises kind text) :: after ∧ ScanEnds before entries ∧
      (scan before entries).entries.names.contains name = false ∧
      kind.isA .failure = false := by
  induction points generalizing entries with
  | nil => exact .inl (.nil entries)
  | cons p rest ih =>
    obtain ⟨name, load⟩ := p
    cases free : entries.names.contains name with
    | true =>
      obtain ends | ⟨before, after, last, kind, text, rfl, ends, stop⟩ := ih entries
      · exact .inl (.taken load free ends)
      · refine .inr
          ⟨(name, load) :: before, after, last, kind, text, rfl, .taken load free ends, ?_⟩
        rwa [scan_taken before load free]
    | false =>
      cases load with
      | gives v =>
        obtain ends | ⟨before, after, last, kind, text, rfl, ends, stop⟩ := ih (entries.put name v)
        · exact .inl (.gives v free ends)
        · refine .inr ⟨(name, .gives v) :: before, after, last, kind, text, rfl,
            .gives v free ends, ?_⟩
          rwa [scan_gives before free]
      | raises kind text =>
        cases handled : kind.isA .failure with
        | false => exact .inr ⟨[], rest, name, kind, text, rfl, .nil entries, free, handled⟩
        | true =>
          obtain ends | ⟨before, after, last, kind', text', rfl, ends, stop⟩ := ih entries
          · exact .inl (.fails text free handled ends)
          · refine .inr ⟨(name, .raises kind text) :: before, after, last, kind', text', rfl,
              .fails text free handled ends, ?_⟩
            rwa [scan_fails before free text handled]

namespace CutShort

variable {r : Registry} {before : List (String × PointLoad)} {e : Error}

/-- The points before the cut are scanned **to their end**. -/
theorem ends (h : CutShort r before e) : ScanEnds before r.entries := by
  cases h with
  | listing => exact .nil _
  | load _ ends => exact ends

/-- A scan that is cut short leaves what a scan of the points before **the interruption** leaves. -/
theorem entries_eq (h : CutShort r before e) :
    r.scanPoints.entries = (scan before r.entries).entries := by
  cases h with
  | listing listed =>
    rw [Registry.scanPoints, listed]
    rfl
  | load listed ends free unhandled =>
    rw [Registry.scanPoints, listed]
    exact (ends.scan_append _).1.trans (by rw [scan_stops _ free _ unhandled])

/-- A scan that is cut short is stopped by its error. -/
theorem stopped (h : CutShort r before e) : r.scanPoints.stopped = some e := by
  cases h with
  | listing listed => rw [Registry.scanPoints, listed]
  | load listed ends free unhandled =>
    rw [Registry.scanPoints, listed]
    exact (ends.scan_append _).2.trans (by rw [scan_stops _ free _ unhandled])

/-- **Every** scan that is ended early is cut short behind some points. -/
theorem of_stopped (h : r.scanPoints.stopped = some e) : ∃ before, CutShort r before e := by
  cases listed : r.points with
  | error e' =>
    rw [Registry.scanPoints, listed] at h
    cases h
    exact ⟨[], .listing listed⟩
  | ok points =>
    rw [Registry.scanPoints, listed] at h
    obtain ends | ⟨before, after, name, kind, text, rfl, ends, free, unhandled⟩ :=
      scanEnds_or_stops points r.entries
    · rw [ends.stopped] at h
      cases h
    · have cut := CutShort.load listed ends free unhandled
      have same := cut.stopped
      rw [Registry.scanPoints, listed] at same
      cases h.symm.trans same
      exact ⟨before, cut⟩

end CutShort

end OrderedScope
