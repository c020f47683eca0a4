import Chip8.Proofs.Machine.History

/-! Which instructions are executed. An operation is traced by noting, while it is done, each
machine in which it fetches an instruction in order to execute it. Tracing changes nothing about
what the operation does. -/
namespace Chip8

variable {σ α β : Type}

/-- The end of an operation, and the states in which it executed instructions, in order. -/
structure Traced (σ α : Type) where
  visits : List σ
  outcome : Outcome σ α

namespace Traced

/-- An operation that executes no instruction. -/
def quiet (outcome : Outcome σ α) : Traced σ α := ⟨[], outcome⟩

/-- Goes on from where an operation finished. -/
def andThen (first : Traced σ α) (next : α → σ → Traced σ β) : Traced σ β where
  visits := first.visits ++ match first.outcome with
    | .done value state => (next value state).visits
    | .failed _ _ => []
  outcome := first.outcome.andThen fun value state => (next value state).outcome

def map (f : α → β) (traced : Traced σ α) : Traced σ β := ⟨traced.visits, traced.outcome.map f⟩

end Traced

namespace Machine

variable {δ κ τ : Type} [Screen δ] [Keypad κ]

def traceFetch (m : Machine δ κ τ) : Traced (Machine δ κ τ) Unit := ⟨[m], m.fetchAndExecute⟩

/-- An operation after which a fault has halted the machine. -/
def traceGuarded (traced : Traced (Machine δ κ τ) α) : Traced (Machine δ κ τ) α :=
  ⟨traced.visits, guarded traced.outcome⟩

def traceStep (m : Machine δ κ τ) : Traced (Machine δ κ τ) Unit :=
  match m.mode with
  | .running => traceGuarded m.traceFetch
  | _ => .quiet m.step

def traceBatch : Nat → Machine δ κ τ → Traced (Machine δ κ τ) Unit
  | 0, m => .quiet (finish m)
  | count + 1, m =>
    match m.mode with
    | .running => m.traceFetch.andThen fun _ m => traceBatch count m
    | _ => .quiet (finish m)

variable [Speaker τ]

def traceCycle (m : Machine δ κ τ) : Traced (Machine δ κ τ) Unit :=
  traceGuarded (((Traced.quiet m.pollKey).andThen fun _ m => m.traceBatch m.batchSize).andThen
    fun _ m => .quiet m.endCycle)

def traceRunFrom : (limit count : Nat) → Machine δ κ τ → Traced (Machine δ κ τ) Nat
  | 0, count, m => .quiet (.done count m)
  | limit + 1, count, m =>
    let reply := Keypad.wantsExit m.keypad
    let m := m.afterKeypad reply
    if reply.answer then .quiet (.done count (m.note (.exitRequested count)))
    else m.traceCycle.andThen fun _ m => traceRunFrom limit (count + 1) m

def tracePerform (m : Machine δ κ τ) : Action δ κ τ → Traced (Machine δ κ τ) Answer
  | .step => m.traceStep.map fun _ => .none
  | .cycle => m.traceCycle.map fun _ => .none
  | .run frames =>
    (traceRunFrom (cycleLimit frames) 0 (m.note (.running m.settings.rate m.batchSize))).map .cycles
  | action => .quiet (m.perform action)

/-- The states in which actions, one after the other, execute instructions. -/
def visits (m : Machine δ κ τ) : List (Action δ κ τ) → List (Machine δ κ τ)
  | [] => []
  | action :: rest => (m.tracePerform action).visits ++ (m.perform action).state.visits rest

def results (m : Machine δ κ τ) : List (Action δ κ τ) → List (Except Fault Answer)
  | [] => []
  | action :: rest => (m.perform action).result :: (m.perform action).state.results rest

omit [Speaker τ] in
@[simp]
theorem outcome_traceStep (m : Machine δ κ τ) : m.traceStep.outcome = m.step := by
  unfold traceStep
  split
  · rename_i running
    simp only [traceGuarded, traceFetch, step, running]
  · rfl

omit [Speaker τ] in
@[simp]
theorem outcome_traceBatch (count : Nat) (m : Machine δ κ τ) :
    (m.traceBatch count).outcome = m.batch count := by
  induction count generalizing m with
  | zero => rfl
  | succ count ih =>
    cases mode : m.mode with
    | running => simp only [traceBatch, batch, mode, Traced.andThen, traceFetch, ih]
    | awaiting | halted => simp only [traceBatch, batch, mode, Traced.quiet]

@[simp]
theorem outcome_traceCycle (m : Machine δ κ τ) : m.traceCycle.outcome = m.cycle := by
  simp only [traceCycle, traceGuarded, Traced.andThen, Traced.quiet, outcome_traceBatch, cycle]

@[simp]
theorem outcome_traceRunFrom (limit count : Nat) (m : Machine δ κ τ) :
    (m.traceRunFrom limit count).outcome = m.runFrom limit count := by
  induction limit generalizing count m with
  | zero => rfl
  | succ limit ih =>
    simp only [traceRunFrom, runFrom]
    split
    · rfl
    · simp only [Traced.andThen, outcome_traceCycle, ih]

theorem outcome_tracePerform (m : Machine δ κ τ) (action : Action δ κ τ) :
    (m.tracePerform action).outcome = m.perform action := by
  cases action with
  | step | cycle | run => simp [tracePerform, perform, Traced.map, run]
  | _ => rfl

end Machine

end Chip8
