namespace Stablecoin
variable {ε β γ : Type}

@[simp] theorem throw_eq_error (error : ε) : (throw error : Except ε β) = .error error := rfl

theorem pure_eq_ok (value : β) : (pure value : Except ε β) = .ok value := rfl

@[simp] theorem error_bind (error : ε) (next : β → Except ε γ) : (Except.error error >>= next) = .error error := rfl

@[simp] theorem ok_bind (value : β) (next : β → Except ε γ) : (Except.ok value >>= next) = next value := rfl

theorem bind_eq_ok {action : Except ε β} {next : β → Except ε γ} {result : γ} :
    (action >>= next) = .ok result ↔ ∃ value, action = .ok value ∧ next value = .ok result := by
  cases action <;> simp

theorem ok_of_mapError {action : Except ε β} {rename : ε → γ} {value : β}
    (accepted : action.mapError rename = .ok value) : action = .ok value := by
  cases action with
  | error error => cases accepted
  | ok answer => exact congrArg Except.ok (Except.ok.inj accepted)

/-- An accepted result comes from behind a check that has passed. -/
theorem ok_of_check {fault : Prop} [Decidable fault] {error : ε} {result : Except ε β} {value : β}
    (accepted : (if fault then .error error else result) = .ok value) : ¬ fault ∧ result = .ok value := by
  split at accepted
  · cases accepted
  · rename_i passed
    exact ⟨passed, accepted⟩

end Stablecoin
