import Chip8.Fault

namespace Chip8

/-- The end of an operation on a state of type `σ`. -/
inductive Outcome (σ α : Type) where
  | done (value : α) (state : σ)
  | failed (fault : Fault) (state : σ)
  deriving Repr

namespace Outcome

variable {σ α β : Type}

def state : Outcome σ α → σ
  | done _ state => state
  | failed _ state => state

def result : Outcome σ α → Except Fault α
  | done value _ => .ok value
  | failed fault _ => .error fault

/-- Goes on from where an operation finished. -/
@[inline]
def andThen (outcome : Outcome σ α) (next : α → σ → Outcome σ β) : Outcome σ β :=
  match outcome with
  | done value state => next value state
  | failed fault state => failed fault state

@[simp]
theorem andThen_done (value : α) (s : σ) (next : α → σ → Outcome σ β) :
    (done value s).andThen next = next value s := rfl

@[simp]
theorem andThen_failed (fault : Fault) (s : σ) (next : α → σ → Outcome σ β) :
    (failed fault s).andThen next = failed fault s := rfl

end Outcome

end Chip8
