import Patchbay.Action

/-!
# Running actions

An action settles when it either ends well or leaves the state as it was (`Action.settle`). One
that makes all its checks before it changes anything settles, and the lemmas here follow such an
action from check to check. A check may also come after a change, as long as the change is undone
when the check fails (`Action.run_undone`). What settles on a part of a state settles on the whole
(`Action.run_within`).
-/

namespace Patchbay

namespace Action

variable {σ τ α β : Type} {state : σ}

/-! ## Steps of an action -/

theorem stateM_bind (first : StateM σ α) (rest : α → StateM σ β) :
    (first >>= rest) state = rest (first state).1 (first state).2 :=
  rfl

/-- After a fault, nothing more is done. -/
theorem run_bind (first : Action σ α) (rest : α → Action σ β) :
    (first >>= rest).run state =
      match first.run state with
      | (.ok value, next) => (rest value).run next
      | (.error fault, next) => (.error fault, next) := by
  rw [ExceptT.run_bind, stateM_bind]
  obtain ⟨result, next⟩ := first.run state
  cases result with
  | ok value => rfl
  | error fault => rfl

/-- The handler of a fault starts from the state in which the fault has occurred. -/
theorem run_tryCatch (first : Action σ α) (handler : Fault → Action σ α) :
    (tryCatch first handler : Action σ α).run state =
      match first.run state with
      | (.ok value, next) => (.ok value, next)
      | (.error fault, next) => (handler fault).run next := by
  rw [ExceptT.run_tryCatch, stateM_bind]
  obtain ⟨result, next⟩ := first.run state
  cases result with
  | ok value => rfl
  | error fault => rfl

theorem run_get (rest : σ → Action σ α) :
    (get >>= rest : Action σ α).run state = (rest state).run state := by
  rw [run_bind]
  rfl

theorem run_modify (change : σ → σ) (rest : Unit → Action σ α) :
    (modify change >>= rest : Action σ α).run state = (rest ()).run (change state) := by
  rw [run_bind]
  rfl

theorem run_liftM (check : Except Fault α) :
    (liftM check : Action σ α).run state = (check, state) := by
  cases check with
  | ok value => rfl
  | error fault => rfl

/-! ## Actions that settle -/

/-- The outcome of an action that changes the state only when it ends well. -/
def settle (state : σ) : Except Fault (α × σ) → Except Fault α × σ
  | .ok (value, next) => (.ok value, next)
  | .error fault => (.error fault, state)

/-- A check changes nothing, so an action settles if what follows its checks does. -/
theorem run_check {check : Except Fault α} {rest : α → Action σ β}
    {result : α → Except Fault (β × σ)}
    (h : ∀ value, (rest value).run state = settle state (result value)) :
    ((liftM check : Action σ α) >>= rest).run state = settle state (check >>= result) := by
  rw [run_bind, run_liftM]
  cases check with
  | ok value => exact h value
  | error fault => rfl

/-- A check of a changed state does no more than a check, if its failure undoes the change. -/
theorem run_undone {change undo : σ → σ} {check : σ → Except Fault α} {rest : α → Action σ β}
    {result : α → Except Fault (β × σ)} (hundo : undo (change state) = state)
    (h : ∀ value, (rest value).run (change state) = settle state (result value)) :
    (do
      modify change
      let value ←
        try
          liftM (check (← get))
        catch fault =>
          modify undo
          throw fault
      rest value : Action σ β).run state = settle state (check (change state) >>= result) := by
  rw [run_modify, run_bind, run_tryCatch, run_get, run_liftM]
  cases check (change state) with
  | ok value => exact h value
  | error fault =>
    show (Except.error fault, undo (change state)) = (Except.error fault, state)
    rw [hundo]

/-- An action that settles on a part does so on the whole, if putting a part back where it was
changes nothing. -/
theorem run_within {part : τ → σ} {put : τ → σ → τ} {action : Action σ α} {whole : τ}
    {result : Except Fault (α × σ)} (hput : put whole (part whole) = whole)
    (h : action.run (part whole) = settle (part whole) result) :
    (action.within part put).run whole =
      settle whole (result.map fun (value, next) => (value, put whole next)) := by
  show ((action.run (part whole)).1, put whole (action.run (part whole)).2) = _
  rw [h]
  cases result with
  | ok value => rfl
  | error fault =>
    show (Except.error fault, put whole (part whole)) = (Except.error fault, whole)
    rw [hput]

end Action

end Patchbay
