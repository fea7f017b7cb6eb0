import Patchbay.Fault

/-!
# Chains of checks

Operations are written as chains of checks that end with a result. Such a chain ends well
exactly when every check passes, and ends with a fault exactly when some check is the first
to fail. The lemmas here open a chain one link at a time, so that no later proof has to look
into the monad.
-/

namespace Patchbay

section Links

variable {ε α β : Type} {first : Except ε α} {rest : α → Except ε β}

@[simp] theorem bind_eq_ok {result : β} :
    (first >>= rest) = .ok result ↔ ∃ value, first = .ok value ∧ rest value = .ok result := by
  cases first with
  | ok value => exact ⟨fun h => ⟨value, rfl, h⟩, fun ⟨_, rfl, h⟩ => h⟩
  | error fault => exact ⟨nofun, nofun⟩

theorem bind_eq_error {fault : ε} :
    (first >>= rest) = .error fault ↔
      first = .error fault ∨ ∃ value, first = .ok value ∧ rest value = .error fault := by
  cases first with
  | ok value =>
    show rest value = .error fault ↔ _
    refine ⟨fun h => .inr ⟨value, rfl, h⟩, ?_⟩
    rintro (h | ⟨_, hvalue, h⟩)
    · cases h
    · cases hvalue
      exact h
  | error other =>
    show Except.error other = .error fault ↔ _
    refine ⟨fun h => .inl (by rw [Except.error.inj h]), ?_⟩
    rintro (h | ⟨_, hvalue, _⟩)
    · rw [Except.error.inj h]
    · cases hvalue

@[simp] theorem pure_eq_ok {value result : α} :
    (pure value : Except ε α) = .ok result ↔ value = result := by
  show Except.ok value = .ok result ↔ _
  rw [Except.ok.injEq]

@[simp] theorem pure_ne_error {value : α} {fault : ε} :
    (pure value : Except ε α) ≠ .error fault :=
  nofun

theorem isOk_iff {result : Except ε α} :
    result.isOk = true ↔ ∃ value, result = .ok value := by
  cases result with
  | ok value => exact ⟨fun _ => ⟨value, rfl⟩, fun _ => rfl⟩
  | error fault => exact ⟨nofun, nofun⟩

end Links

@[simp] theorem require_eq_ok {holds : Prop} [Decidable holds] {fault : Fault} {result : Unit} :
    require holds fault = .ok result ↔ holds := by
  unfold require
  split <;> simp_all

theorem require_eq_error {holds : Prop} [Decidable holds] {fault other : Fault} :
    require holds fault = .error other ↔ ¬ holds ∧ fault = other := by
  unfold require
  split <;> simp_all

@[simp] theorem present_eq_ok {α : Type} {value : Option α} {fault : Fault} {result : α} :
    present value fault = .ok result ↔ value = some result := by
  cases value <;> simp [present]

theorem present_eq_error {α : Type} {value : Option α} {fault other : Fault} :
    present value fault = .error other ↔ value = none ∧ fault = other := by
  cases value <;> simp [present]

end Patchbay
