/-!
# Chains that succeed

Compiling, parsing and scanning are chains of steps that may fail. A chain succeeds only if each of
its steps does.
-/

namespace ByteScan

theorem bind_eq_ok {action : Except ε α} {next : α → Except ε β} {result : β}
    (succeeds : action >>= next = .ok result) :
    ∃ value, action = .ok value ∧ next value = .ok result := by
  cases action with
  | error error => cases succeeds
  | ok value => exact ⟨value, rfl, succeeds⟩

theorem bind_state_eq_ok {action : EStateM ε σ α} {next : α → EStateM ε σ β} {before final : σ}
    {result : β} (succeeds : (action >>= next) before = .ok result final) :
    ∃ value after, action before = .ok value after ∧ next value after = .ok result final := by
  simp only [bind, EStateM.bind] at succeeds
  split at succeeds
  · rename_i value after same
    exact ⟨value, after, same, succeeds⟩
  · cases succeeds

theorem bind_of_ok {action : EStateM ε σ α} {next : α → EStateM ε σ β} {before after : σ}
    {value : α} (succeeds : action before = .ok value after) :
    (action >>= next) before = next value after := by
  simp only [bind, EStateM.bind, succeeds]

end ByteScan
