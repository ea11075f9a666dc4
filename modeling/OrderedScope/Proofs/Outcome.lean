import OrderedScope.Machine

/-!
# How Runs End

`Run.outcome` tells how a run ends from a world, and the world then. This module says how the
outcome of a composed run follows from the outcomes of its parts, so that later proofs follow a run
step by step through the worlds that it passes and never look into the layers of the monad.

## Main results

* `Run.outcome_bind`: a run that goes on ends as its second part does from the world in which the
  first ended, unless the first failed.
* `Run.outcome_bind_ok_iff`: the same, read backwards from a success.
* `Run.outcome_recover`: a handler goes on from the world in which the error was raised.
* `Run.bind_apply_of_ok`: a run is its second part behind a first one that logs nothing.
* `Run.bind_congr`: two runs that begin alike and go on alike from where they have come to are the
  same run there, down to what they log.
-/

namespace OrderedScope.Run

variable {α β : Type}

/-! ### Steps -/

/-- A value alone **ends** with it. -/
@[simp] theorem outcome_pure (a : α) (w : World) : (pure a : Run α).outcome w = (.ok a, w) := rfl

/-- An error alone ends with it. -/
@[simp] theorem outcome_raise (e : Error) (w : World) :
    (raise e : Run α).outcome w = (.error (.raised e), w) := rfl

/-- A reading gives what it reads and leaves the world. -/
@[simp] theorem outcome_reading (f : World → α) (w : World) :
    (reading f).outcome w = (.ok (f w), w) := rfl

/-- The world is read as it is. -/
@[simp] theorem outcome_get (w : World) : (get : Run World).outcome w = (.ok w, w) := rfl

/-- A change gives nothing and leaves the changed world. -/
@[simp] theorem outcome_modify (f : World → World) (w : World) :
    (modify f : Run Unit).outcome w = (.ok (), f w) := rfl

/-- A message changes no world. -/
@[simp] theorem outcome_tell (level : LogLevel) (text : String) (w : World) :
    (tell level text).outcome w = (.ok (), w) := rfl

/-! ### Going on -/

/-- A run that goes on ends as its **second part** does from the world in which the first ended;
a failure of the first part ends it. -/
theorem outcome_bind (x : Run α) (f : α → Run β) (w : World) :
    (x >>= f).outcome w =
      match x.outcome w with
      | (.ok a, w₁) => (f a).outcome w₁
      | (.error e, w₁) => (.error e, w₁) := by
  simp only [outcome, bind, ExceptT.bind, ExceptT.mk, StateT.bind]
  rcases x w with ⟨⟨_ | _, _⟩, _⟩ <;> rfl

/-- What a run gives is mapped, and its faults are not. -/
theorem outcome_map (f : α → β) (x : Run α) (w : World) :
    (f <$> x).outcome w =
      match x.outcome w with
      | (.ok a, w₁) => (.ok (f a), w₁)
      | (.error e, w₁) => (.error e, w₁) := by
  rw [← bind_pure_comp, outcome_bind]
  rfl

/-- A run that gives something **goes on** with it. -/
theorem outcome_bind_of_ok {x : Run α} {f : α → Run β} {w w₁ : World} {a : α}
    (h : x.outcome w = (.ok a, w₁)) : (x >>= f).outcome w = (f a).outcome w₁ := by
  rw [outcome_bind, h]

/-- A run that fails does not go on. -/
theorem outcome_bind_of_error {x : Run α} {f : α → Run β} {w w₁ : World} {e : Fault}
    (h : x.outcome w = (.error e, w₁)) : (x >>= f).outcome w = (.error e, w₁) := by
  rw [outcome_bind, h]

/-- Two runs end alike if they begin alike and go on alike **from where they have come to**. -/
theorem outcome_bind_congr {x y : Run α} {f g : α → Run β} {w : World}
    (hxy : x.outcome w = y.outcome w)
    (h : ∀ a w₁, x.outcome w = (.ok a, w₁) → (f a).outcome w₁ = (g a).outcome w₁) :
    (x >>= f).outcome w = (y >>= g).outcome w := by
  rw [outcome_bind, outcome_bind, ← hxy]
  rcases hx : x.outcome w with ⟨_ | a, w₁⟩
  · rfl
  · exact h a w₁ hx

/-- Two runs in a row give something exactly if the first gives something from which the second
does. -/
theorem outcome_bind_ok_iff {x : Run α} {f : α → Run β} {w w₂ : World} {b : β} :
    (x >>= f).outcome w = (.ok b, w₂) ↔
      ∃ a w₁, x.outcome w = (.ok a, w₁) ∧ (f a).outcome w₁ = (.ok b, w₂) := by
  rw [outcome_bind]
  rcases x.outcome w with ⟨_ | a, w₁⟩
  · constructor
    · intro h
      cases h
    · rintro ⟨a, w₁, h, -⟩
      cases h
  · constructor
    · intro h
      exact ⟨a, w₁, rfl, h⟩
    · rintro ⟨a', w₁', h, hf⟩
      cases h
      exact hf

/-- A run that goes on fails **in its first part or in its second**. -/
theorem outcome_bind_error_iff {x : Run α} {f : α → Run β} {w w₂ : World} {e : Fault} :
    (x >>= f).outcome w = (.error e, w₂) ↔ x.outcome w = (.error e, w₂) ∨
      ∃ a w₁, x.outcome w = (.ok a, w₁) ∧ (f a).outcome w₁ = (.error e, w₂) := by
  rw [outcome_bind]
  rcases x.outcome w with ⟨_ | a, w₁⟩
  · simp
  · simp [and_assoc]

/-- A mapped run gives exactly the images of what the run gives. -/
theorem outcome_map_ok_iff {f : α → β} {x : Run α} {w w₁ : World} {b : β} :
    (f <$> x).outcome w = (.ok b, w₁) ↔ ∃ a, x.outcome w = (.ok a, w₁) ∧ f a = b := by
  rw [outcome_map]
  rcases x.outcome w with ⟨_ | a, w₁⟩
  · constructor
    · intro h
      cases h
    · rintro ⟨_, h, -⟩
      cases h
  · constructor
    · intro h
      cases h
      exact ⟨a, rfl, rfl⟩
    · rintro ⟨_, h, rfl⟩
      cases h
      rfl

/-- A mapped run fails exactly as the run. -/
theorem outcome_map_error_iff {f : α → β} {x : Run α} {w w₁ : World} {e : Fault} :
    (f <$> x).outcome w = (.error e, w₁) ↔ x.outcome w = (.error e, w₁) := by
  rw [outcome_map]
  rcases x.outcome w with ⟨e | a, w₁⟩ <;> simp

/-- A run and what is made of its answer end **in the same world**. -/
theorem world_map (f : α → β) (x : Run α) (w : World) :
    ((f <$> x).outcome w).2 = (x.outcome w).2 := by
  rw [outcome_map]
  rcases x.outcome w with ⟨_ | a, w₁⟩ <;> rfl

/-- Runs along a list that leave the world as it is give **what each of them gives**. -/
theorem outcome_mapM {f : α → Run β} {g : α → β} {l : List α} {w : World}
    (h : ∀ a ∈ l, (f a).outcome w = (.ok (g a), w)) :
    (l.mapM f).outcome w = (.ok (l.map g), w) := by
  induction l with
  | nil => rfl
  | cons a rest ih =>
      rw [List.forall_mem_cons] at h
      rw [List.mapM_cons, outcome_bind_of_ok h.1, outcome_bind_of_ok (ih h.2)]
      rfl

/-! ### Handling errors -/

/-- A handler goes on **from the world in which the error was raised**. -/
theorem outcome_recover (handled : Error → Bool) (x : Run α) (handler : Error → Run α)
    (w : World) :
    (recover handled x handler).outcome w =
      match x.outcome w with
      | (.error (.raised e), w₁) =>
        if handled e then (handler e).outcome w₁ else (.error (.raised e), w₁)
      | other => other := by
  simp only [outcome, recover, tryCatch, tryCatchThe, MonadExceptOf.tryCatch, ExceptT.tryCatch,
    ExceptT.mk, bind, StateT.bind]
  rcases x w with ⟨⟨(e | _) | _, _⟩, _⟩
  · by_cases h : handled e <;> simp only [h] <;> rfl
  · rfl
  · rfl

/-- A handler leaves what is given. -/
theorem outcome_recover_ok {handled : Error → Bool} {x : Run α} {handler : Error → Run α}
    {w w₁ : World} {a : α} (h : x.outcome w = (.ok a, w₁)) :
    (recover handled x handler).outcome w = (.ok a, w₁) := by
  rw [outcome_recover, h]

/-- Errors that are turned into answers change nothing about **the world in which** a run ends. -/
theorem world_recover (handled : Error → Bool) (x : Run α) (g : Error → α) (w : World) :
    ((recover handled x fun e => pure (g e)).outcome w).2 = (x.outcome w).2 := by
  rw [outcome_recover]
  rcases x.outcome w with ⟨(e | _) | a, w₁⟩
  · simp only
    split <;> rfl
  · rfl
  · rfl

/-- Where a missing attribute is none the world is changed in the same way. -/
theorem world_optional (x : Run α) (w : World) :
    ((optional x).outcome w).2 = (x.outcome w).2 := by
  rw [optional, world_recover, world_map]

/-- A missing attribute is `none`, in the world in which it was missed. -/
theorem outcome_optional (x : Run α) (w : World) :
    (optional x).outcome w =
      match x.outcome w with
      | (.ok a, w₁) => (.ok (some a), w₁)
      | (.error (.raised e), w₁) =>
        if e.isA .attr then (.ok none, w₁) else (.error (.raised e), w₁)
      | (.error .exhausted, w₁) => (.error .exhausted, w₁) := by
  rw [optional, outcome_recover, outcome_map]
  rcases x.outcome w with ⟨(e | _) | a, w₁⟩ <;> rfl

/-- What may be missing is there exactly if it is given. -/
theorem outcome_optional_some_iff {x : Run α} {a : α} {w w₁ : World} :
    (optional x).outcome w = (.ok (some a), w₁) ↔ x.outcome w = (.ok a, w₁) := by
  rw [outcome_optional]
  rcases x.outcome w with ⟨(e | _) | b, w₂⟩
  · simp only
    split <;> simp
  · simp
  · simp

/-- What may be missing is missing exactly if a **missing attribute** is raised. -/
theorem outcome_optional_none_iff {x : Run α} {w w₁ : World} :
    (optional x).outcome w = (.ok none, w₁) ↔
      ∃ e, e.isA .attr = true ∧ x.outcome w = (.error (.raised e), w₁) := by
  rw [outcome_optional]
  constructor
  · rcases x.outcome w with ⟨(e | _) | b, w₂⟩ <;> intro h
    · simp only at h
      split at h <;> cases h
      rename_i missing
      exact ⟨e, missing, rfl⟩
    · cases h
    · cases h
  · rintro ⟨e, missing, h⟩
    rw [h]
    exact if_pos missing

/-- An attempt turns the errors of a run into values. -/
theorem outcome_attempt (x : Run α) (w : World) :
    (attempt x).outcome w =
      match x.outcome w with
      | (.ok a, w₁) => (.ok (.ok a), w₁)
      | (.error (.raised e), w₁) => (.ok (.error e), w₁)
      | (.error .exhausted, w₁) => (.error .exhausted, w₁) := by
  rw [attempt, outcome_recover, outcome_map]
  rcases x.outcome w with ⟨(e | _) | a, w₁⟩ <;> rfl

/-- What is done with a failure is done **from the world in which the run failed**. -/
theorem outcome_tryCatch (x : Run α) (handler : Fault → Run α) (w : World) :
    (tryCatch x handler).outcome w =
      match x.outcome w with
      | (.ok a, w₁) => (.ok a, w₁)
      | (.error f, w₁) => (handler f).outcome w₁ := by
  simp only [outcome, tryCatch, tryCatchThe, MonadExceptOf.tryCatch, ExceptT.tryCatch, ExceptT.mk,
    bind, StateT.bind]
  rcases x w with ⟨⟨_ | _, _⟩, _⟩ <;> rfl

/-- What is done **after** a run is done from the world in which the run ends, however it ends. -/
theorem outcome_ensuring (x : Run α) (f : World → World) (w : World) :
    (ensuring x (modify f)).outcome w = ((x.outcome w).1, f (x.outcome w).2) := by
  rw [ensuring, outcome_bind, outcome_tryCatch]
  rcases x.outcome w with ⟨_ | _, _⟩ <;> rfl

/-! ### Runs that log -/

/-- Logging a message **never fails** and leaves the world as it is. -/
@[simp] theorem outcome_log (level : LogLevel) (message : String) (w : World) :
    (log level message).outcome w = (.ok (), w) := by
  simp only [log, logText, logs, outcome_bind, outcome_reading]
  split <;> rfl

/-- The **wording** of a message does not matter for how logging it ends: only how making it
does. -/
theorem outcome_logText_wording (level : LogLevel) {x y : Run String}
    (alike : ∀ w, ((fun _ => ()) <$> x : Run Unit).outcome w =
      ((fun _ => ()) <$> y : Run Unit).outcome w) (w : World) :
    (logText level fun _ => x).outcome w = (logText level fun _ => y).outcome w := by
  simp only [logText, outcome_bind]
  rcases (logs level).outcome w with ⟨_ | _ | _, w₁⟩
  · rfl
  · rfl
  · simp only [↓reduceIte, outcome_bind, outcome_attempt]
    have ends := alike w₁
    simp only [outcome_map] at ends
    rcases hx : x.outcome w₁ with ⟨(_ | _) | _, _⟩ <;>
      rcases hy : y.outcome w₁ with ⟨(_ | _) | _, _⟩ <;> rw [hx, hy] at ends <;> cases ends <;> rfl

/-- Logging a text can fail only because the budget runs out **while the text is made**. -/
theorem logText_error {level : LogLevel} {message : Unit → Run String} {f : Fault}
    {w w₁ : World} (h : (logText level message).outcome w = (.error f, w₁)) :
    f = .exhausted ∧ (message ()).outcome w = (.error .exhausted, w₁) := by
  obtain ⟨logged, known⟩ : ∃ logged, (logs level).outcome w = (.ok logged, w) := ⟨_, rfl⟩
  rw [logText, outcome_bind_of_ok known] at h
  cases logged with
  | false => cases h
  | true =>
    simp only [↓reduceIte, outcome_bind, outcome_attempt] at h
    rcases made : (message ()).outcome w with ⟨(e | _) | text, w₂⟩ <;> rw [made] at h <;> cases h
    exact ⟨rfl, rfl⟩

/-- Logging a text leaves the world as it is, or as it is **once the text is made**. -/
theorem world_logText (level : LogLevel) (message : Unit → Run String) (w : World) :
    ((logText level message).outcome w).2 = w ∨
      ((logText level message).outcome w).2 = ((message ()).outcome w).2 := by
  obtain ⟨logged, known⟩ : ∃ logged, (logs level).outcome w = (.ok logged, w) := ⟨_, rfl⟩
  rw [logText, outcome_bind_of_ok known]
  cases logged with
  | false => exact .inl rfl
  | true =>
    right
    simp only [↓reduceIte, outcome_bind, outcome_attempt]
    rcases (message ()).outcome w with ⟨(e | _) | text, w₁⟩ <;> rfl

/-- A run goes on **as its second part** behind a first one that logs nothing. -/
theorem bind_apply_of_ok {x : Run α} {f : α → Run β} {a : α} {w w₁ : World}
    (h : x w = ⟨(.ok a, w₁), []⟩) : (x >>= f) w = f a w₁ := by
  simp only [bind, ExceptT.bind, ExceptT.mk, StateT.bind, h, ExceptT.bindCont, List.nil_append]

/-- A reading hands on what it reads. -/
theorem reading_bind_apply (f : World → α) (g : α → Run β) (w : World) :
    (reading f >>= g) w = g (f w) w :=
  bind_apply_of_ok rfl

/-- The world is handed on as it is. -/
theorem get_bind_apply (g : World → Run β) (w : World) : ((get : Run World) >>= g) w = g w w :=
  bind_apply_of_ok rfl

/-- A run with a handler is **the handler** where it fails at once and logs nothing. -/
theorem recover_apply_of_raised {handled : Error → Bool} {x : Run α} {handler : Error → Run α}
    {e : Error} {w w₁ : World} (h : x w = ⟨(.error (.raised e), w₁), []⟩)
    (he : handled e = true) : recover handled x handler w = handler e w₁ := by
  simp only [recover, tryCatch, tryCatchThe, MonadExceptOf.tryCatch, ExceptT.tryCatch, ExceptT.mk,
    bind, StateT.bind, h, he, if_true, List.nil_append]

/-- Two runs that begin alike and go on alike **from where they have come to** are the same run
there, what they log included. -/
theorem bind_congr {x y : Run α} {f g : α → Run β} {w : World} (hxy : x w = y w)
    (h : ∀ a w₁, x.outcome w = (.ok a, w₁) → f a w₁ = g a w₁) : (x >>= f) w = (y >>= g) w := by
  simp only [outcome] at h
  simp only [bind, ExceptT.bind, ExceptT.mk, StateT.bind, ExceptT.bindCont, ← hxy]
  revert h
  rcases x w with ⟨⟨_ | a, w₁⟩, log⟩
  · intro _
    rfl
  · intro h
    simp only [h a w₁ rfl]

end OrderedScope.Run
