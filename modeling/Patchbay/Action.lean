import Patchbay.Fault

/-!
# Actions

What changes a state runs as an action on it that ends with a value or a fault. The state
goes on as the action left it, also after a fault: an action that has changed something by
then has to put it back.
-/

namespace Patchbay

/-- An action on a state. The state survives a fault. -/
abbrev Action (σ : Type) := ExceptT Fault (StateM σ)

/-- Runs an action on a part of a state. What the action left of the part is put into the
whole, also after a fault. -/
def Action.within {σ τ α : Type} (part : τ → σ) (put : τ → σ → τ) (action : Action σ α) :
    Action τ α :=
  ExceptT.mk fun whole =>
    let (result, left) := action.run (part whole)
    (result, put whole left)

end Patchbay
