/-!
# Computations with state

A computation of type `Run σ ε α` works on a state of type `σ` and ends with a value or with an error. What it did
to the state before an error stays done.
-/

namespace LightBus

/-- A computation on a state that may end with an error. -/
abbrev Run (σ ε α : Type) := ExceptT ε (StateM σ) α

namespace Run

variable {σ τ ε ε' α β : Type}

/-- The outcome of the computation and the state after it. -/
def runFrom (a : Run σ ε α) (s : σ) : Except ε α × σ := a s

/-- The computation with the given outcome and state after it. -/
def of (f : σ → Except ε α × σ) : Run σ ε α := f

/-- One step that cannot fail. -/
def step (f : σ → α × σ) : Run σ ε α := fun s => let (a, s) := f s; (.ok a, s)

/-- The same computation with other errors. -/
def mapError (f : ε → ε') (a : Run σ ε α) : Run σ ε' α := fun s =>
  match a s with
  | (.ok x, s) => (.ok x, s)
  | (.error e, s) => (.error (f e), s)

/-- The same computation on a part of a larger state. -/
def within (get : τ → σ) (put : τ → σ → τ) (a : Run σ ε α) : Run τ ε α := fun t =>
  let (r, s) := a (get t)
  (r, put t s)

/-- The outcome as a value, so that the computation goes on after an error. -/
def attempt (a : Run σ ε α) : Run σ ε' (Except ε α) := fun s =>
  let (r, s) := a s
  (.ok r, s)

/-- Ends with the given outcome. -/
def ofExcept (r : Except ε α) : Run σ ε α := fun s => (r, s)

/-! ### What a computation does from a given state -/

@[simp] theorem runFrom_pure (x : α) (s : σ) : (pure x : Run σ ε α).runFrom s = (.ok x, s) := rfl

@[simp] theorem runFrom_throw (e : ε) (s : σ) : (throw e : Run σ ε α).runFrom s = (.error e, s) := rfl

@[simp] theorem runFrom_get (s : σ) : (MonadState.get : Run σ ε σ).runFrom s = (.ok s, s) := rfl

@[simp] theorem runFrom_modify (f : σ → σ) (s : σ) : (modify f : Run σ ε PUnit).runFrom s = (.ok ⟨⟩, f s) := rfl

@[simp] theorem runFrom_ofExcept (r : Except ε α) (s : σ) : (ofExcept r).runFrom s = (r, s) := rfl

/-- The second computation begins in the state that the first one left, unless that ended with an error. -/
@[simp] theorem runFrom_bind (a : Run σ ε α) (f : α → Run σ ε β) (s : σ) :
    (a >>= f).runFrom s =
      match a.runFrom s with
      | (.ok x, s) => (f x).runFrom s
      | (.error e, s) => (.error e, s) := by
  show (ExceptT.bindCont f (a s).1) (a s).2 = _
  unfold runFrom ExceptT.bindCont
  rcases a s with ⟨_ | _, _⟩ <;> rfl

@[simp] theorem runFrom_mapError (f : ε → ε') (a : Run σ ε α) (s : σ) :
    (a.mapError f).runFrom s = ((a.runFrom s).1.mapError f, (a.runFrom s).2) := by
  simp only [mapError, runFrom]
  rcases a s with ⟨_ | _, _⟩ <;> rfl

@[simp] theorem runFrom_within (get : τ → σ) (put : τ → σ → τ) (a : Run σ ε α) (t : τ) :
    (a.within get put).runFrom t = ((a.runFrom (get t)).1, put t (a.runFrom (get t)).2) := rfl

@[simp] theorem runFrom_attempt (a : Run σ ε α) (s : σ) :
    (a.attempt : Run σ ε' (Except ε α)).runFrom s = (.ok (a.runFrom s).1, (a.runFrom s).2) := rfl

end Run

end LightBus
