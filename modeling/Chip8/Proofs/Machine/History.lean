import Chip8.Proofs.Machine.Step

/-! Everything that can be done with a machine and happen to its devices, and the machines that
come of it in any order. A property of cores that every part of an operation keeps holds of all of
them; the induction over histories is done here once. -/
namespace Chip8

variable {δ κ τ : Type}

/-- What a host does with a machine, or what happens to one of its devices meanwhile. -/
inductive Action (δ κ τ : Type) where
  | load (program : List UInt8)
  | loadFrom (source : Source)
  | step
  | cycle
  | run (frames : Option UInt64)
  | tick
  | pressKey (key : UInt8)
  | screen (change : δ → δ)
  | keypad (change : κ → κ)
  | speaker (change : τ → τ)

/-- What an action answers when no fault cuts it short. -/
inductive Answer where
  | none
  | cycles (count : Nat)
  | waited (heard : Bool)

def Outcome.map {σ α β : Type} (f : α → β) : Outcome σ α → Outcome σ β
  | .done value state => .done (f value) state
  | .failed fault state => .failed fault state

@[simp]
theorem Outcome.state_map {σ α β : Type} (f : α → β) (outcome : Outcome σ α) :
    (outcome.map f).state = outcome.state := by
  cases outcome <;> rfl

namespace Machine

variable [Screen δ] [Keypad κ] [Speaker τ]

def perform (m : Machine δ κ τ) : Action δ κ τ → Outcome (Machine δ κ τ) Answer
  | .load program => (m.load program).map fun _ => .none
  | .loadFrom source => (m.loadFrom source).map fun _ => .none
  | .step => m.step.map fun _ => .none
  | .cycle => m.cycle.map fun _ => .none
  | .run frames => (m.run frames).map .cycles
  | .tick => .done .none m.tick
  | .pressKey key => .done (.waited (m.pressKey key).1) (m.pressKey key).2
  | .screen change => .done .none { m with screen := change m.screen }
  | .keypad change => .done .none { m with keypad := change m.keypad }
  | .speaker change => .done .none { m with speaker := change m.speaker }

/-- The machines that come of a new one. Without a seed the random bytes start anywhere. -/
inductive Reachable : Machine δ κ τ → Prop where
  | created (settings : Settings) (screen : δ) (keypad : κ) (speaker : τ) (journal : Journal)
      (random : RandomStream)
      (seeded : ∀ seed, settings.seed = some seed → random = RandomStream.ofSeed seed) :
      Reachable { create settings screen keypad speaker journal with random }
  | performed {m : Machine δ κ τ} (before : Reachable m) (action : Action δ κ τ) :
      Reachable (m.perform action).state

/-- Does one thing after the other, whatever comes of each. -/
def performAll (m : Machine δ κ τ) (actions : List (Action δ κ τ)) : Machine δ κ τ :=
  actions.foldl (fun m action => (m.perform action).state) m

theorem reachable_create (settings : Settings) (screen : δ) (keypad : κ) (speaker : τ)
    (journal : Journal) : (create settings screen keypad speaker journal).Reachable := by
  refine .created settings screen keypad speaker journal
    (RandomStream.ofSeed (settings.seed.getD 0)) ?_
  intro seed same
  rw [same]
  rfl

theorem Reachable.performAll {m : Machine δ κ τ} (before : m.Reachable)
    (actions : List (Action δ κ τ)) : (m.performAll actions).Reachable := by
  induction actions generalizing m with
  | nil => exact before
  | cons action rest ih => exact ih (before.performed action)

omit [Screen δ] [Keypad κ] in
@[simp]
theorem toCore_driveSpeaker (m : Machine δ κ τ) : m.driveSpeaker.toCore = m.toCore := by
  simp only [driveSpeaker]
  split
  · rfl
  · split <;> rfl

omit [Keypad κ] [Speaker τ] in
@[simp]
theorem toCore_render (m : Machine δ κ τ) : m.render.state.toCore = m.toCore := by
  simp only [render]
  split <;> rfl

end Machine

/-- A property of cores that no part of an operation takes away, on devices of the given types. -/
structure Kept (δ κ τ : Type) [Screen δ] [Keypad κ] (P : Core → Prop) : Prop where
  load : ∀ (c : Core) (bytes : Vector UInt8 memorySize), P c →
    P { c with memory := { c.memory with bytes } }
  fetch : ∀ m : Machine δ κ τ, m.mode = .running → P m.toCore → P m.fetchAndExecute.state.toCore
  halt : ∀ c : Core, P c → P { c with mode := .halted }
  key : ∀ (c : Core) (x : Register) (key : UInt8), c.mode = .awaiting x → key ≤ 0xf → P c →
    P { c with v := c.v.put x key, mode := .running }
  tick : ∀ c : Core, P c → P { c with
    delay := Machine.ticked c.delay, sound := Machine.ticked c.sound }

namespace Kept

variable [Screen δ] [Keypad κ] {P : Core → Prop} (kept : Kept δ κ τ P)

include kept

private theorem loaded (m : Machine δ κ τ) (program : List UInt8) (holds : P m.toCore) :
    P (m.load program).state.toCore := by
  unfold Machine.load
  by_cases few : program.length ≤ m.memory.capacity
  · rw [Memory.load_of_few few]
    exact kept.load m.toCore _ holds
  · rw [Memory.load_of_many few]
    exact holds

private theorem loadedFrom (m : Machine δ κ τ) (source : Source) (holds : P m.toCore) :
    P (m.loadFrom source).state.toCore := by
  unfold Machine.loadFrom
  split
  · exact kept.loaded m _ holds
  · exact holds

private theorem halted (m : Machine δ κ τ) (fault : Fault) (holds : P m.toCore) :
    P (m.halt fault).toCore := by
  rw [Machine.toCore_halt]
  exact kept.halt m.toCore holds

private theorem guarded {α : Type} (outcome : Outcome (Machine δ κ τ) α)
    (holds : P outcome.state.toCore) : P (Machine.guarded outcome).state.toCore := by
  cases outcome with
  | done value m => exact holds
  | failed fault m => exact kept.halted m fault holds

omit [Screen δ] [Keypad κ] kept in
private theorem andThen {α β : Type} (outcome : Outcome (Machine δ κ τ) α)
    (next : α → Machine δ κ τ → Outcome (Machine δ κ τ) β) (holds : P outcome.state.toCore)
    (later : ∀ value m, P m.toCore → P (next value m).state.toCore) :
    P (outcome.andThen next).state.toCore := by
  cases outcome with
  | done value m => exact later value m holds
  | failed fault m => exact holds

theorem step (m : Machine δ κ τ) (holds : P m.toCore) : P m.step.state.toCore := by
  unfold Machine.step
  split
  · exact holds
  · exact holds
  · rename_i running
    exact kept.guarded _ (kept.fetch m running holds)

theorem batch (count : Nat) (m : Machine δ κ τ) (holds : P m.toCore) :
    P (Machine.batch count m).state.toCore := by
  induction count generalizing m with
  | zero => exact holds
  | succ count ih =>
    unfold Machine.batch
    split
    · rename_i running
      exact andThen _ _ (kept.fetch m running holds) fun _ m holds => ih m holds
    · exact holds

private theorem pressKey (m : Machine δ κ τ) (key : UInt8) (holds : P m.toCore) :
    P (m.pressKey key).2.toCore := by
  unfold Machine.pressKey
  split
  · exact holds
  · rename_i isKey
    split
    · rename_i x waiting
      exact kept.key m.toCore x key waiting (UInt8.not_lt.mp isKey) holds
    · exact holds

theorem pollKey (m : Machine δ κ τ) (holds : P m.toCore) : P m.pollKey.state.toCore := by
  unfold Machine.pollKey
  split
  · exact holds
  · exact holds
  · dsimp only
    split
    · exact holds
    · exact holds
    · exact kept.pressKey (m.afterKeypad _) _ holds

private theorem tickWhenRunning (m : Machine δ κ τ) (holds : P m.toCore) :
    P m.tickWhenRunning.toCore := by
  unfold Machine.tickWhenRunning
  split
  · exact kept.tick m.toCore holds
  · exact holds

variable [Speaker τ]

theorem cycle (m : Machine δ κ τ) (holds : P m.toCore) : P m.cycle.state.toCore := by
  unfold Machine.cycle
  apply kept.guarded
  apply andThen
  · exact andThen _ _ (kept.pollKey m holds) fun _ m holds => kept.batch _ m holds
  · intro _ m holds
    rw [Machine.endCycle, Machine.toCore_render, Machine.toCore_driveSpeaker]
    exact kept.tickWhenRunning m holds

private theorem runFrom (limit count : Nat) (m : Machine δ κ τ) (holds : P m.toCore) :
    P (Machine.runFrom limit count m).state.toCore := by
  induction limit generalizing count m with
  | zero => exact holds
  | succ limit ih =>
    simp only [Machine.runFrom]
    split
    · exact holds
    · exact andThen _ _ (kept.cycle (m.afterKeypad _) holds) fun _ m holds => ih _ m holds

theorem perform (m : Machine δ κ τ) (action : Action δ κ τ) (holds : P m.toCore) :
    P (m.perform action).state.toCore := by
  cases action with
  | load program =>
    rw [Machine.perform, Outcome.state_map]
    exact kept.loaded m program holds
  | loadFrom source =>
    rw [Machine.perform, Outcome.state_map]
    exact kept.loadedFrom m source holds
  | step =>
    rw [Machine.perform, Outcome.state_map]
    exact kept.step m holds
  | cycle =>
    rw [Machine.perform, Outcome.state_map]
    exact kept.cycle m holds
  | run frames =>
    rw [Machine.perform, Outcome.state_map]
    exact kept.runFrom _ 0 (m.note _) holds
  | tick => exact kept.tick m.toCore holds
  | pressKey key => exact kept.pressKey m key holds
  | screen change | keypad change | speaker change => exact holds

/-- What holds of a new core, whatever its random bytes, and is kept holds after every history. -/
theorem reachable (initial : ∀ seed random, P { Core.initial seed with random })
    {m : Machine δ κ τ} (reachable : m.Reachable) : P m.toCore := by
  induction reachable with
  | created settings screen keypad speaker journal random seeded =>
    exact initial settings.seed random
  | performed before action holds => exact kept.perform _ action holds

end Kept

end Chip8
