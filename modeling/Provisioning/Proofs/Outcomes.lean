import Provisioning.Error

/-!
Results that may be errors: when a chain of them ends with a value, and how chains and changes of
their results commute.
-/

namespace Provisioning

variable {α β γ ε δ : Type} {outcome : Except ε α}

theorem ok_bind (value : α) (next : α → Except ε β) : (Except.ok value >>= next) = next value :=
  rfl

theorem error_bind (fault : ε) (next : α → Except ε β) :
    (Except.error fault >>= next) = .error fault :=
  rfl

theorem ok_map (value : α) (change : α → β) :
    (Except.ok value : Except ε α).map change = .ok (change value) :=
  rfl

theorem error_map (fault : ε) (change : α → β) : (Except.error fault).map change = .error fault :=
  rfl

theorem mapError_ok (report : ε → δ) (value : α) :
    (Except.ok value : Except ε α).mapError report = .ok value :=
  rfl

theorem mapError_error (report : ε → δ) (fault : ε) :
    (Except.error fault : Except ε α).mapError report = .error (report fault) :=
  rfl

theorem bind_eq_ok {next : α → Except ε β} {result : β} :
    outcome >>= next = .ok result ↔ ∃ value, outcome = .ok value ∧ next value = .ok result := by
  cases outcome with
  | error fault => simp only [error_bind, reduceCtorEq, false_and, exists_false]
  | ok value => simp only [ok_bind, Except.ok.injEq, exists_eq_left']

theorem map_eq_ok {change : α → β} {result : β} :
    outcome.map change = .ok result ↔ ∃ value, outcome = .ok value ∧ change value = result := by
  cases outcome with
  | error fault => simp only [error_map, reduceCtorEq, false_and, exists_false]
  | ok value => simp only [ok_map, Except.ok.injEq, exists_eq_left']

theorem map_eq_error {change : α → β} {fault : ε} :
    outcome.map change = .error fault ↔ outcome = .error fault := by
  cases outcome with
  | error known => simp only [error_map, Except.error.injEq]
  | ok value => simp only [ok_map, reduceCtorEq]

/-- An error that is reported otherwise is an error all the same. -/
theorem mapError_eq_ok {report : ε → δ} {value : α} :
    outcome.mapError report = .ok value ↔ outcome = .ok value := by
  cases outcome with
  | error fault => simp only [mapError_error, reduceCtorEq]
  | ok known => simp only [mapError_ok, Except.ok.injEq]

theorem bind_of_map (outcome : Except ε α) (change : α → β) (next : β → Except ε γ) :
    (outcome.map change >>= next) = outcome >>= fun value => next (change value) := by
  cases outcome <;> rfl

theorem map_of_bind (outcome : Except ε α) (next : α → Except ε β) (change : β → γ) :
    (outcome >>= next).map change = outcome >>= fun value => (next value).map change := by
  cases outcome <;> rfl

end Provisioning
