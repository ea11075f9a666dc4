import OrderedScope.Proofs.Scanning
import OrderedScope.Session.Execute

/-!
# What the Registry Knows

The registry is a table of variants that grows by registrations and, once, by a scan of its
extension points. A **history** is a sequence of calls to it, in any order and with anything else in
between. What the registry knows at its end depends on the registrations, on the list of points and
on whether it has been asked before, and this module says how: the latest registration under a name
wins, then the first point of the name that loads; names stand in the order in which they were first
put in.

The second part is about scans that do not come to their end. A scan counts as done from its start,
so the points behind an interruption are forgotten.

## Main results

* `Registry.Knows.register`, `Registry.Knows.question`: what a single call adds to what is known.
* `Registry.History.precedence`: what the registry answers after any history.
* `Registry.interrupted_scan`: what it answers ever after if its scan was ended early.
-/

namespace OrderedScope

variable {run : Runner} {w w₁ : World}

/-! ### Histories -/

/-- A question is answered if the points can be listed and load in the ordinary way. -/
theorem outcome_loadRegistry_of_ordinary {points : List (String × PointLoad)}
    (listed : w.registry.points = .ok points) (ordinary : ∀ p ∈ points, p.2.Ordinary) :
    ∃ loads, loadRegistry.outcome w = (.ok loads, w.scanned) := by
  have stopped : w.registry.scanPoints.stopped = none := by
    rw [Registry.scanPoints, listed]
    exact (ScanEnds.of_ordinary ordinary _).stopped
  rw [outcome_loadRegistry, Registry.load]
  cases w.registry.loaded with
  | true => exact ⟨_, rfl⟩
  | false =>
    refine ⟨w.registry.scanPoints.loads, ?_⟩
    simp only [Bool.false_eq_true, ↓reduceIte, stopped, Option.elim_none]

/-- A resolver of a visibility is made of the variant that is **found** under it. -/
theorem Resolver.outcome_ofVisibility {visibility : Value} {found : Option Variant}
    (h : (findVariant visibility).outcome w = (.ok found, w₁)) (closure : Value) (s : Setup) :
    (ofVisibility run visibility closure s).outcome w =
      (found.elim (do
          Run.raise (.unknownVisibility (← visibility.quotedText run) w₁.registry.names))
        fun v => make run v closure s).outcome w₁ := by
  rw [ofVisibility, requireVariant, bind_assoc, Run.outcome_bind_of_ok h]
  cases found with
  | some v => rfl
  | none =>
    rw [bind_assoc, Run.outcome_bind_of_ok (Run.outcome_reading _ _), bind_assoc, Run.outcome_bind,
      Option.elim_none, Run.outcome_bind]
    rcases (visibility.quotedText run).outcome w₁ with ⟨_ | text, w₂⟩ <;> rfl

/-- To look for a variant leaves the world **scanned**. -/
theorem outcome_findVariant_world (visibility : Value) (w : World) :
    ((findVariant visibility).outcome w).2 = w.scanned := by
  obtain ⟨result, loads⟩ : ∃ result, loadRegistry.outcome w = (result, w.scanned) :=
    ⟨_, outcome_loadRegistry w⟩
  have other (v : Value) (hashable : Bool) : ((if hashable then pure none
      else do Run.raise (.unhashable (← classNameOf v)) : Run (Option Variant)).outcome w.scanned).2
      = w.scanned := by
    cases hashable <;> rfl
  rw [findVariant.eq_def, Run.outcome_bind, loads]
  cases result with
  | error e => rfl
  | ok names =>
    cases visibility with
    | str name => rfl
    | _ => exact other _ _

/-- To list the names leaves the world scanned. -/
theorem outcome_registryNames_world (w : World) :
    (Session.registryNames.outcome w).2 = w.scanned := by
  obtain ⟨result, loads⟩ : ∃ result, loadRegistry.outcome w = (result, w.scanned) :=
    ⟨_, outcome_loadRegistry w⟩
  rw [Session.registryNames, Run.outcome_bind, loads]
  cases result <;> rfl

namespace Registry

/-- A **call** to the registry: a registration, a question for the variant of a visibility or for
the known names, or the question with which the making of a resolver of a visibility begins. -/
inductive Call where
  | register (name : String) (v : Variant)
  | get (visibility : Value)
  | names
  | make (visibility : Value)

namespace Call

/-- Whether a call is a question. -/
def asks : Call → Bool
  | register .. => false
  | _ => true

/-- Does what a call asks for. -/
def perform : Call → Run Unit
  | register name v => modify fun w => { w with registry := w.registry.register name v }
  | get visibility | make visibility => do let _ ← findVariant visibility
  | names => do let _ ← Session.registryNames

/-- The scans that a call brings about, each by the points that it loads. -/
def scans (c : Call) (w : World) : List (List String) :=
  if c.asks then w.registry.load.2.toList.map (·.loads) else []

/-- A question leaves the registry **scanned**. -/
theorem registry_perform {c : Call} (h : c.asks = true) (w : World) :
    (c.perform.outcome w).2.registry = w.registry.load.1 := by
  have discarded {α : Type} (x : Run α) (hx : (x.outcome w).2 = w.scanned) :
      ((do let _ ← x : Run Unit).outcome w).2.registry = w.registry.load.1 := by
    rw [Run.outcome_bind]
    rcases hx' : x.outcome w with ⟨_ | a, w₁⟩ <;> rw [hx'] at hx <;> exact congrArg _ hx
  cases c with
  | register name v => cases h
  | get visibility => exact discarded _ (outcome_findVariant_world visibility w)
  | names => exact discarded _ (outcome_registryNames_world w)
  | make visibility => exact discarded _ (outcome_findVariant_world visibility w)

end Call

/-- A **history** of calls from a world to another, with the scans on the way. Between the calls,
and within the making of a resolver, anything may happen that leaves the registry alone; where the
code that runs there calls the registry itself, its calls are calls of the history. -/
inductive History (w₀ : World) : List Call → List (List String) → World → Prop
  | start : History w₀ [] [] w₀
  | call {calls : List Call} {scans : List (List String)} {w : World} (c : Call) :
      History w₀ calls scans w →
      History w₀ (calls ++ [c]) (scans ++ c.scans w) (c.perform.outcome w).2
  | elsewhere {calls : List Call} {scans : List (List String)} {w w₁ : World} :
      History w₀ calls scans w → w₁.registry = w.registry → History w₀ calls scans w₁

/-- There is a history of **every** sequence of calls. -/
theorem History.exists_of_calls (w₀ : World) (calls : List Call) :
    ∃ scans w, History w₀ calls scans w := by
  induction h : calls.length generalizing calls with
  | zero =>
    rw [List.length_eq_zero_iff.1 h]
    exact ⟨_, _, .start⟩
  | succ n ih =>
    obtain ⟨before, last, rfl⟩ := (List.eq_nil_or_concat calls).resolve_left
      (List.ne_nil_of_length_eq_add_one h)
    obtain ⟨scans, w, history⟩ := ih before (by simpa using h)
    rw [List.concat_eq_append]
    exact ⟨_, _, history.call last⟩

/-- Whether the registry is asked in a history. -/
def asked (calls : List Call) : Bool := calls.any (·.asks)

/-- The registrations of a history, in order. -/
def registrations (calls : List Call) : Variants :=
  calls.filterMap fun
    | .register name v => some (name, v)
    | _ => none

/-- The variant of the **latest** registration under a name. -/
def latest? (calls : List Call) (name : String) : Option Variant :=
  (registrations calls).reverse.lookup name

/-- The names that were registered before the first question, and from there on. -/
def namesBefore (calls : List Call) : List String :=
  (registrations (calls.takeWhile fun c => !c.asks)).names

def namesSince (calls : List Call) : List String :=
  (registrations (calls.dropWhile fun c => !c.asks)).names

/-- The names that a history puts into the registry, in order: those registered before the first
question, those of the points that gave a variant then, and those registered later. -/
def insertions (points : List (String × PointLoad)) (calls : List Call) : List String :=
  namesBefore calls ++ if asked calls then givenNames points ++ namesSince calls else []

/-- What is **known** under a name at the end of a history. -/
def known? (points : List (String × PointLoad)) (calls : List Call) (name : String) :
    Option Variant :=
  (latest? calls name).or (if asked calls then firstGiven? points name else none)

section Concat

variable (points : List (String × PointLoad)) (calls : List Call) (c : Call)

/-- One more call asks if it or one before does. -/
theorem asked_concat : asked (calls ++ [c]) = (asked calls || c.asks) := by
  simp [asked]

/-- One more call adds its registration. -/
theorem registrations_concat :
    registrations (calls ++ [c]) = registrations calls ++ registrations [c] :=
  List.filterMap_append ..

/-- A registration is the latest of its name and leaves the others. -/
theorem latest?_concat_register (name : String) (v : Variant) (other : String) :
    latest? (calls ++ [.register name v]) other =
      if other = name then some v else latest? calls other := by
  have one : registrations [.register name v] = [(name, v)] := rfl
  rw [latest?, registrations_concat, one, List.reverse_append, List.reverse_singleton,
    List.singleton_append, List.lookup_cons]
  by_cases h : other = name
  · simp [h]
  · rw [beq_false_of_ne h, if_neg h]
    rfl

/-- A question registers nothing. -/
theorem registrations_of_asks (h : c.asks = true) : registrations [c] = [] := by
  cases c with
  | register name v => cases h
  | _ => rfl

/-- A question leaves what is the latest of a name. -/
theorem latest?_concat_question (h : c.asks = true) (other : String) :
    latest? (calls ++ [c]) other = latest? calls other := by
  rw [latest?, registrations_concat, registrations_of_asks c h, List.append_nil]
  rfl

/-- What is registered before the first question, and from there on, after one more call. -/
theorem names_concat_of_asked (h : asked calls = true) :
    namesBefore (calls ++ [c]) = namesBefore calls ∧
      namesSince (calls ++ [c]) = namesSince calls ++ (registrations [c]).names := by
  have split : (calls ++ [c]).takeWhile (fun c => !c.asks) = calls.takeWhile (fun c => !c.asks) ∧
      (calls ++ [c]).dropWhile (fun c => !c.asks) = calls.dropWhile (fun c => !c.asks) ++ [c] := by
    induction calls with
    | nil => cases h
    | cons d rest ih =>
      rw [List.cons_append, List.takeWhile_cons, List.dropWhile_cons, List.takeWhile_cons,
        List.dropWhile_cons]
      cases hd : d.asks with
      | true => exact ⟨rfl, rfl⟩
      | false =>
        obtain ⟨before, since⟩ := ih (by simpa [asked, hd] using h)
        exact ⟨congrArg (d :: ·) before, since⟩
  rw [namesBefore, namesSince, split.1, split.2, registrations_concat]
  exact ⟨rfl, List.map_append⟩

/-- Before the first question all names are registered ones. -/
theorem names_of_not_asked (h : asked calls = false) :
    namesBefore calls = (registrations calls).names ∧ namesSince calls = [] := by
  have silent : ∀ c ∈ calls, (!c.asks) = true := by simpa [asked] using h
  rw [namesBefore, namesSince, ← List.append_nil calls, List.takeWhile_append_of_pos silent,
    List.dropWhile_append_of_pos silent]
  exact ⟨rfl, rfl⟩

/-- The first question **parts** what is registered before it from what is registered later. -/
theorem names_concat_of_first (h : asked calls = false) (hc : c.asks = true) :
    namesBefore (calls ++ [c]) = (registrations calls).names ∧ namesSince (calls ++ [c]) = [] := by
  have silent : ∀ c ∈ calls, (!c.asks) = true := by simpa [asked] using h
  rw [namesBefore, namesSince, List.takeWhile_append_of_pos silent,
    List.dropWhile_append_of_pos silent, List.takeWhile_cons, List.dropWhile_cons, hc]
  refine ⟨by simp, ?_⟩
  show (registrations [c]).names = []
  rw [registrations_of_asks c hc]
  rfl

/-- A registration inserts its name. -/
theorem insertions_concat_register (name : String) (v : Variant) :
    insertions points (calls ++ [.register name v]) = insertions points calls ++ [name] := by
  rw [insertions, insertions, asked_concat]
  cases h : asked calls with
  | true =>
    obtain ⟨before, since⟩ := names_concat_of_asked calls (.register name v) h
    rw [before, since]
    simp [registrations, Variants.names]
  | false =>
    have later : asked (calls ++ [.register name v]) = false := by rw [asked_concat, h]; rfl
    rw [(names_of_not_asked _ later).1, (names_of_not_asked _ h).1, registrations_concat]
    simp [registrations, Variants.names, Call.asks]

/-- The first question inserts the names **of the points**, a later one nothing. -/
theorem insertions_concat_question (h : c.asks = true) :
    insertions points (calls ++ [c]) =
      if asked calls then insertions points calls
      else (registrations calls).names ++ givenNames points := by
  rw [insertions, insertions, asked_concat, h, Bool.or_true]
  cases ha : asked calls with
  | true =>
    obtain ⟨before, since⟩ := names_concat_of_asked calls c ha
    rw [before, since, registrations_of_asks c h]
    simp [Variants.names]
  | false =>
    obtain ⟨before, since⟩ := names_concat_of_first calls c ha h
    rw [before, since, List.append_nil]
    rfl

end Concat

/-- What the registry **holds** at the end of a history that began with an empty one. -/
structure Knows (points : List (String × PointLoad)) (calls : List Call)
    (scans : List (List String)) (r : Registry) : Prop where
  listed : r.points = .ok points
  loaded : r.loaded = asked calls
  find : ∀ name, r.find? name = known? points calls name
  names : r.entries.names = (insertions points calls).eraseDups
  scans : scans = if asked calls then [loadedNames (namesBefore calls) points] else []

namespace Knows

variable {points : List (String × PointLoad)} {calls : List Call} {scans : List (List String)}
  {r : Registry}

/-- A registry that was never called is known to be empty. -/
theorem start (points : List (String × PointLoad)) : Knows points [] [] ⟨[], false, .ok points⟩ :=
  ⟨rfl, rfl, fun _ => rfl, rfl, rfl⟩

/-- A registration adds its variant, **in front** of whatever was known under its name. -/
theorem register (h : Knows points calls scans r) (name : String) (v : Variant) :
    Knows points (calls ++ [.register name v]) scans (r.register name v) where
  listed := h.listed
  loaded := by rw [asked_concat, Call.asks, Bool.or_false]; exact h.loaded
  find other := by
    rw [known?, latest?_concat_register, asked_concat, Call.asks, Bool.or_false]
    refine (Variants.lookup_put r.entries name v other).trans ?_
    split
    · rfl
    · exact h.find other
  names := by
    have contains : r.entries.names.contains name = (insertions points calls).contains name := by
      rw [h.names, Bool.eq_iff_iff]
      simp
    rw [insertions_concat_register, eraseDups_concat, ← contains, ← h.names]
    exact Variants.names_put r.entries name v
  scans := by
    rw [asked_concat, Call.asks, Bool.or_false, h.scans]
    cases ha : asked calls with
    | true => rw [(names_concat_of_asked calls _ ha).1]
    | false => rfl

/-- A question changes nothing once the points have been scanned. The **first** question scans
them. -/
theorem question (h : Knows points calls scans r) (ordinary : ∀ p ∈ points, p.2.Ordinary)
    {c : Call} (hc : c.asks = true) :
    Knows points (calls ++ [c]) (scans ++ r.load.2.toList.map (·.loads)) r.load.1 := by
  have loaded := h.loaded
  cases ha : asked calls with
  | true =>
    obtain ⟨before, since⟩ := names_concat_of_asked calls c ha
    have done : r.load = (r, none) := by rw [load, if_pos (loaded.trans ha)]
    rw [done]
    refine ⟨h.listed, ?_, fun name => ?_, ?_, ?_⟩
    · rw [asked_concat, ha]
      exact loaded.trans ha
    · rw [h.find, known?, known?, latest?_concat_question calls c hc, asked_concat, ha,
        Bool.true_or]
    · rw [insertions_concat_question points calls c hc, if_pos ha]
      exact h.names
    · rw [asked_concat, before, ha, Bool.true_or, h.scans, ha]
      rfl
  | false =>
    have ends := ScanEnds.of_ordinary ordinary r.entries
    have quiet := h.scans
    have found := h.find
    have names := h.names
    have now : asked (calls ++ [c]) = true := by rw [asked_concat, hc, Bool.or_true]
    have before := (names_concat_of_first calls c ha hc).1
    rw [ha] at loaded quiet
    simp only [known?, ha, Bool.false_eq_true, ↓reduceIte, Option.or_none] at found
    rw [insertions, (names_of_not_asked calls ha).1, ha, if_neg Bool.false_ne_true,
      List.append_nil] at names
    have scanned : r.load = ({ r with entries := (scan points r.entries).entries, loaded := true },
        some (scan points r.entries)) := by
      rw [load, if_neg (Bool.eq_false_iff.1 loaded), scanPoints, h.listed]
    rw [scanned]
    refine ⟨h.listed, now.symm, fun name => ?_, ?_, ?_⟩
    · rw [known?, latest?_concat_question calls c hc, if_pos now, ← found]
      exact ends.lookup_scan name
    · rw [insertions_concat_question points calls c hc, if_neg (Bool.eq_false_iff.1 ha)]
      exact ends.names_scan names
    · rw [if_pos now, quiet, if_neg Bool.false_ne_true, List.nil_append, before]
      refine congrArg (fun loads => [loads]) (ends.loads_scan.trans ?_)
      exact loadedNames_congr points fun name => by rw [names]; simp

end Knows

section Precedence

variable {points : List (String × PointLoad)} {w₀ w : World} {calls : List Call}
  {scans : List (List String)}

/-- Every history leaves what it makes known. -/
theorem History.knows (ordinary : ∀ p ∈ points, p.2.Ordinary)
    (fresh : w₀.registry = ⟨[], false, .ok points⟩) (h : History w₀ calls scans w) :
    Knows points calls scans w.registry := by
  induction h with
  | start =>
    rw [fresh]
    exact .start points
  | @call calls scans w c _ ih =>
    cases asks : c.asks with
    | true =>
      rw [Call.scans, if_pos asks, Call.registry_perform asks]
      exact ih.question ordinary asks
    | false =>
      cases c with
      | register name v =>
        rw [Call.scans, Call.asks, if_neg Bool.false_ne_true, List.append_nil]
        exact ih.register name v
      | _ => cases asks
  | elsewhere _ same ih =>
    rw [same]
    exact ih

/-- **What the registry answers** after any history of registrations, questions and resolvers made,
for any list of extension points with ordinary loads.

The points are scanned once, at the first question, and exactly those are loaded whose names are
free at their turn; later questions change nothing. A question for a name finds the latest
registration under it, before or after the scan, and else what the first point of the name gives
whose load does not fail; a resolver is made of that variant, or refused with the names that are
known. The known names are listed once each, in the order in which they were first put in. Of a
point whose load fails nothing depends. -/
theorem History.precedence (ordinary : ∀ p ∈ points, p.2.Ordinary)
    (fresh : w₀.registry = ⟨[], false, .ok points⟩) (h : History w₀ calls scans w) :
    scans = (if asked calls then [loadedNames (namesBefore calls) points] else []) ∧
    (asked calls = true → w.scanned = w) ∧
    (∀ name, (findVariant (.str name)).outcome w =
      (.ok ((latest? calls name).or (firstGiven? points name)), w.scanned)) ∧
    (∃ loads names, Session.registryNames.outcome w = (.ok (names, loads), w.scanned) ∧
      names = (insertions points (calls ++ [.names])).eraseDups ∧ names.Nodup ∧
      (∀ name, name ∈ names ↔ ((latest? calls name).or (firstGiven? points name)).isSome) ∧
      ∀ (run : Runner) (name : String) (closure : Value) (s : Setup),
        (Resolver.ofVisibility run (.str name) closure s).outcome w =
          (((latest? calls name).or (firstGiven? points name)).elim
            (do Run.raise (.unknownVisibility (← Value.quotedText run (.str name)) names))
            fun v => Resolver.make run v closure s).outcome w.scanned) ∧
    ∀ before name kind text after, points = before ++ (name, .raises kind text) :: after →
      firstGiven? points = firstGiven? (before ++ after) ∧
      givenNames points = givenNames (before ++ after) := by
  have now := h.knows ordinary fresh
  have next : Knows points (calls ++ [.names]) _ w.scanned.registry := now.question ordinary rfl
  have known (name : String) : w.scanned.registry.find? name =
      (latest? calls name).or (firstGiven? points name) := by
    rw [next.find, known?, latest?_concat_question calls .names rfl, asked_concat,
      show Call.names.asks = true from rfl, Bool.or_true, if_pos rfl]
  obtain ⟨loads, loaded⟩ := outcome_loadRegistry_of_ordinary now.listed ordinary
  have found (name : String) : (findVariant (.str name)).outcome w =
      (.ok ((latest? calls name).or (firstGiven? points name)), w.scanned) := by
    rw [findVariant, Run.outcome_bind_of_ok loaded, Run.outcome_reading, known]
  refine ⟨now.scans, fun asked => ?_, found, ⟨loads, w.scanned.registry.entries.names, ?_,
    next.names, ?_, fun name => ?_, fun run name closure s => ?_⟩, ?_⟩
  · rw [World.scanned, load, if_pos (now.loaded.trans asked)]
  · rw [Session.registryNames, Run.outcome_bind_of_ok loaded]
    rfl
  · rw [next.names]
    exact nodup_eraseDups _
  · rw [← known]
    exact Variants.mem_names_iff
  · exact Resolver.outcome_ofVisibility (found name) closure s
  · rintro before name kind text after rfl
    exact givens_of_failing before after name kind text

end Precedence

/-- Extension points of which some share a name and some fail to load. -/
def extensions : List (String × PointLoad) :=
  [("plain", .raises .importing "no such module"), ("guest", .publicOne), ("plain", .privateOne),
    ("plain", .publicOne), ("broken", .raises .value "bad"), ("taken", .publicOne)]

/-- A world whose registry has these points and is empty. -/
def extensible : World := { World.empty with registry := ⟨[], false, .ok extensions⟩ }

/-- A variant that is registered by hand. -/
def guest : Variant := ⟨"Guest", "guest", .dynamic false⟩

/-- Registrations before and after the first question, the latter over what a point gave. -/
def mixedCalls : List Call :=
  [.register "private" .privateOne, .register "public" .publicOne, .register "taken" guest, .names,
    .get (.str "plain"), .register "guest" guest, .make (.str "guest")]

/-- The points are scanned once; a registration wins on either side of the scan, the second point of
a name gives its variant if the first fails, and the third is not loaded. -/
theorem History.precedence_mixed :
    ∃ scans w, History extensible mixedCalls scans w ∧
      scans = [["plain", "guest", "plain", "broken"]] ∧
      ((findVariant (.str "guest")).outcome w).1 = .ok (some guest) ∧
      ((findVariant (.str "plain")).outcome w).1 = .ok (some .privateOne) ∧
      ((findVariant (.str "taken")).outcome w).1 = .ok (some guest) ∧
      ((findVariant (.str "broken")).outcome w).1 = .ok none ∧
      ∃ loads, (Session.registryNames.outcome w).1 =
        .ok (["private", "public", "taken", "guest", "plain"], loads) := by
  obtain ⟨scans, w, history⟩ := exists_of_calls extensible mixedCalls
  have ordinary : ∀ p ∈ extensions, p.2.Ordinary := by decide
  obtain ⟨scanned, -, found, ⟨loads, names, listed, inOrder, -⟩, -⟩ :=
    precedence ordinary rfl history
  refine ⟨scans, w, history, scanned.trans (by decide), ?_, ?_, ?_, ?_, loads, ?_⟩
  · rw [found]
    rfl
  · rw [found]
    rfl
  · rw [found]
    rfl
  · rw [found]
    rfl
  · have inserted : (insertions extensions (mixedCalls ++ [.names])).eraseDups =
        ["private", "public", "taken", "guest", "plain"] := by decide
    rw [listed, inOrder, inserted]

/-! ### After an interruption -/

/-- The world in which listing the extension points gives something else. -/
def relisted (w : World) (listing : Listing) : World :=
  { w with registry := { w.registry with points := listing } }

/-- Behind a scan, whether it came to its end or not, **nothing is scanned**, and only registrations
add to what is found. -/
theorem History.after_scan {w₀ w : World} {calls : List Call} {scans : List (List String)}
    (loaded : w₀.registry.loaded = true) (h : History w₀ calls scans w) :
    scans = [] ∧ w.registry.loaded = true ∧
      ∀ name, w.registry.find? name = (latest? calls name).or (w₀.registry.find? name) := by
  induction h with
  | start => exact ⟨rfl, loaded, fun _ => rfl⟩
  | @call calls scans w c _ ih =>
    obtain ⟨quiet, still, found⟩ := ih
    cases asks : c.asks with
    | true =>
      have nothing : w.registry.load = (w.registry, none) := by rw [load, if_pos still]
      rw [Call.scans, if_pos asks, Call.registry_perform asks, nothing, quiet]
      refine ⟨rfl, still, fun name => ?_⟩
      rw [latest?_concat_question calls c asks, found]
    | false =>
      cases c with
      | register name v =>
        rw [Call.scans, asks, if_neg Bool.false_ne_true, quiet]
        refine ⟨rfl, still, fun other => ?_⟩
        rw [latest?_concat_register]
        refine (Variants.lookup_put w.registry.entries name v other).trans ?_
        split
        · rfl
        · exact found other
      | _ => cases asks
  | elsewhere _ same ih =>
    rw [same]
    exact ih

/-- **What an interrupted scan leaves.** A scan is ended early if the points cannot be listed, or if
a load raises what is no ordinary failure; it is cut short behind some of the points then. The
question that began it fails with the error, and the registry takes the scan for done: whatever is
called later, and whatever listing and loading the points would give by then, nothing is scanned
again, so that a name is known exactly if it is registered, was known before, or has a point among
those before the interruption that gave a variant. -/
theorem interrupted_scan {w : World} {e : Error} {before : List (String × PointLoad)}
    (unscanned : w.registry.loaded = false) (cut : CutShort w.registry before e) :
    (∀ visibility, (findVariant visibility).outcome w = (.error (.raised e), w.scanned)) ∧
    Session.registryNames.outcome w = (.error (.raised e), w.scanned) ∧
    ∀ (listing : Listing) (calls : List Call) (scans : List (List String)) (w₁ : World),
      History (relisted w.scanned listing) calls scans w₁ →
      scans = [] ∧
      (∀ name, (findVariant (.str name)).outcome w₁ =
        (.ok ((latest? calls name).or
          ((w.registry.find? name).or (firstGiven? before name))), w₁)) ∧
      ∃ names, Session.registryNames.outcome w₁ = (.ok (names, []), w₁) ∧
        ∀ name, name ∈ names ↔ ((latest? calls name).or
          ((w.registry.find? name).or (firstGiven? before name))).isSome := by
  have asking : w.registry.load = ({ w.registry with
      entries := w.registry.scanPoints.entries, loaded := true }, some w.registry.scanPoints) := by
    rw [load, if_neg (Bool.eq_false_iff.1 unscanned)]
  have failed : loadRegistry.outcome w = (.error (.raised e), w.scanned) := by
    rw [outcome_loadRegistry, asking]
    simp only [cut.stopped, Option.elim_some]
  refine ⟨fun visibility => ?_, ?_, fun listing calls scans w₁ since => ?_⟩
  · rw [findVariant.eq_def, Run.outcome_bind_of_error failed]
  · rw [Session.registryNames, Run.outcome_bind_of_error failed]
  · have done : (relisted w.scanned listing).registry.loaded = true := by
      rw [relisted, World.scanned, asking]
    have kept (name : String) : (relisted w.scanned listing).registry.find? name =
        (w.registry.find? name).or (firstGiven? before name) := by
      refine Eq.trans ?_ (cut.ends.lookup_scan name)
      rw [← cut.entries_eq, relisted, World.scanned, asking, find?]
    obtain ⟨quiet, still, found⟩ := since.after_scan done
    have known (name : String) : w₁.registry.find? name = (latest? calls name).or
        ((w.registry.find? name).or (firstGiven? before name)) := by
      rw [found, kept]
    have loaded := outcome_loadRegistry_of_scanned still
    refine ⟨quiet, fun name => ?_, w₁.registry.entries.names, ?_, fun name => ?_⟩
    · rw [findVariant, Run.outcome_bind_of_ok loaded, Run.outcome_reading, known]
    · rw [Session.registryNames, Run.outcome_bind_of_ok loaded]
      rfl
    · rw [← known]
      exact Variants.mem_names_iff

/-- A world with three extension points. The load of the second is interrupted. -/
def interruptible : World :=
  { World.empty with
    registry := { Registry.initial with
      points := .ok [("early", .privateOne), ("slow", .raises .interrupt "stop"),
        ("late", .publicOne)] } }

/-- The same world after the interruption, with all points loadable. -/
def recovered : World :=
  relisted interruptible.scanned
    (.ok [("early", .privateOne), ("slow", .publicOne), ("late", .publicOne)])

/-- What was scanned before the interruption is known, and what is registered after it; the points
behind it are not. -/
theorem interrupted_scan_slow :
    interruptible.registry.loaded = false ∧
    CutShort interruptible.registry [("early", .privateOne)] (.raised .interrupt "stop") ∧
    ∃ scans w₁, History recovered [.names, .register "slow" guest, .get (.str "late")] scans w₁ ∧
      scans = [] ∧
      ((findVariant (.str "early")).outcome w₁).1 = .ok (some .privateOne) ∧
      ((findVariant (.str "slow")).outcome w₁).1 = .ok (some guest) ∧
      ((findVariant (.str "late")).outcome w₁).1 = .ok none := by
  have unscanned : interruptible.registry.loaded = false := rfl
  have cut : CutShort interruptible.registry [("early", .privateOne)] (.raised .interrupt "stop") :=
    .load rfl (.gives _ rfl (.nil _)) rfl rfl
  obtain ⟨scans, w₁, since⟩ := History.exists_of_calls recovered
    [.names, .register "slow" guest, .get (.str "late")]
  obtain ⟨-, -, later⟩ := interrupted_scan unscanned cut
  obtain ⟨quiet, found, -⟩ := later _ _ _ _ since
  refine ⟨unscanned, cut, scans, w₁, since, quiet, ?_, ?_, ?_⟩
  · rw [found]
    rfl
  · rw [found]
    rfl
  · rw [found]
    rfl

/-- An interrupted scan **is remembered as a completed one**: all points load by now and the name of
the last one is free, and yet it is not known. -/
theorem interruption_forgets :
    ((findVariant (.str "late")).outcome interruptible).1
      = .error (.raised (.raised .interrupt "stop")) ∧
    recovered.registry.points
      = .ok [("early", .privateOne), ("slow", .publicOne), ("late", .publicOne)] ∧
    recovered.registry.loaded = true ∧
    recovered.registry.find? "late" = none ∧
    ((findVariant (.str "late")).outcome recovered).1 = .ok none ∧
    ((findVariant (.str "slow")).outcome recovered).1 = .ok none :=
  ⟨rfl, rfl, rfl, rfl, rfl, rfl⟩

end Registry

end OrderedScope
