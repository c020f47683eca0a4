import Chip8.Outcome

namespace Chip8.Outcome

variable {σ α β : Type}

/-- The fault that cut an operation short, if one did. -/
def fault? : Outcome σ α → Option Fault
  | done _ _ => none
  | failed fault _ => some fault

theorem eq_done_of_fault? {outcome : Outcome σ Unit} (fine : outcome.fault? = none) :
    outcome = .done () outcome.state := by
  cases outcome with
  | done value state => rfl
  | failed fault state => cases fine

theorem eq_failed_of_fault? {outcome : Outcome σ α} {fault : Fault}
    (broken : outcome.fault? = some fault) : outcome = .failed fault outcome.state := by
  cases outcome with
  | done value state => cases broken
  | failed cause state =>
    cases broken
    rfl

theorem eq_done_of_result {outcome : Outcome σ α} {value : α}
    (answers : outcome.result = .ok value) : outcome = .done value outcome.state := by
  cases outcome with
  | done answer state =>
    cases answers
    rfl
  | failed fault state => cases answers

/-- Whether an operation leaves a state with `finished` when it finishes, and a fault and a state
with `cut` when it does not. -/
def Leaves (outcome : Outcome σ α) (finished : σ → Prop) (cut : Fault → σ → Prop) : Prop :=
  match outcome with
  | done _ state => finished state
  | failed fault state => cut fault state

theorem Leaves.andThen {outcome : Outcome σ α} {next : α → σ → Outcome σ β}
    {between finished : σ → Prop} {cut : Fault → σ → Prop} (first : outcome.Leaves between cut)
    (later : ∀ value state, between state → (next value state).Leaves finished cut) :
    (outcome.andThen next).Leaves finished cut := by
  cases outcome with
  | done value state => exact later value state first
  | failed fault state => exact first

end Chip8.Outcome
