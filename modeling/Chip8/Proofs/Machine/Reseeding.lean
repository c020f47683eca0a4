import Chip8.Proofs.Machine.History

namespace Chip8

namespace RandomStream

/-- Byte number `k` of the stream of a key. -/
def byteAt (key : Random.Key) (k : Nat) : UInt8 := (word key k).toUInt8

/-- The stream of a key with some words taken. -/
def startingAt (key : Random.Key) (taken : Nat) : RandomStream where
  key := key
  taken := taken
  current := Random.block key (taken / 16)
  current_eq := rfl

theorem byte_eq_byteAt (stream : RandomStream) : stream.byte = byteAt stream.key stream.taken := by
  rw [byte, byteAt, head_eq_word]

/-- A stream is known by its key and the number of words taken. -/
theorem eq_startingAt (stream : RandomStream) :
    stream = startingAt stream.key stream.taken := by
  obtain ⟨key, taken, current, rfl⟩ := stream
  rfl

theorem ofSeed_eq (seed : UInt64) : ofSeed seed = startingAt (Random.keyOfSeed seed) 0 :=
  eq_startingAt _

theorem tail_startingAt (key : Random.Key) (taken : Nat) :
    (startingAt key taken).tail = startingAt key (taken + 1) := by
  rw [eq_startingAt (startingAt key taken).tail, key_tail, taken_tail]
  rfl

end RandomStream

open RandomStream

def Outcome.onState {σ σ' α : Type} (f : σ → σ') : Outcome σ α → Outcome σ' α
  | .done value state => .done value (f state)
  | .failed fault state => .failed fault (f state)

namespace Machine

variable {δ κ τ α β : Type}

/-- A machine as it would be with another seed, with as many random bytes taken. -/
def reseed (seed : UInt64) (m : Machine δ κ τ) : Machine δ κ τ :=
  { m with
    random := startingAt (Random.keyOfSeed seed) m.random.taken
    settings := { m.settings with seed := some seed } }

theorem create_reseed (settings : Settings) (seed other : UInt64) (screen : δ) (keypad : κ)
    (speaker : τ) (journal : Journal) :
    (create { settings with seed := some seed } screen keypad speaker journal).reseed other =
      create { settings with seed := some other } screen keypad speaker journal := by
  simp only [create, Core.initial, reseed, Option.getD_some, ofSeed_eq]
  rfl

/-- Whether an operation takes no random byte, and the seed makes no difference to it. -/
structure Seedless (operation : Machine δ κ τ → Outcome (Machine δ κ τ) α) (m : Machine δ κ τ) :
    Prop where
  random : (operation m).state.random = m.random
  reseed (seed : UInt64) :
    operation (m.reseed seed) = (operation m).onState (Machine.reseed seed)

theorem Seedless.done (value : α) (m : Machine δ κ τ) :
    Seedless (fun m : Machine δ κ τ => .done value m) m := ⟨rfl, fun _ => rfl⟩

theorem Seedless.failed (fault : Fault) (m : Machine δ κ τ) :
    Seedless (fun m : Machine δ κ τ => (.failed fault m : Outcome _ α)) m := ⟨rfl, fun _ => rfl⟩

theorem Seedless.of_eq {operation other : Machine δ κ τ → Outcome (Machine δ κ τ) α}
    {m : Machine δ κ τ} (seedless : Seedless other m) (here : operation m = other m)
    (there : ∀ seed, operation (m.reseed seed) = other (m.reseed seed)) : Seedless operation m where
  random := by
    rw [here]
    exact seedless.random
  reseed seed := by
    rw [here, there]
    exact seedless.reseed seed

section Fields

variable (seed : UInt64) (m : Machine δ κ τ)

private theorem memory_reseed : (m.reseed seed).memory = m.memory := rfl

private theorem v_reseed : (m.reseed seed).v = m.v := rfl

private theorem i_reseed : (m.reseed seed).i = m.i := rfl

private theorem stack_reseed : (m.reseed seed).stack = m.stack := rfl

private theorem keypad_reseed : (m.reseed seed).keypad = m.keypad := rfl

theorem mode_reseed : (m.reseed seed).mode = m.mode := rfl

end Fields

section Execution

private theorem seedless_skipWhen (m : Machine δ κ τ) (condition : Bool) :
    Seedless (fun m => finish (m.skipWhen condition)) m := by
  cases condition <;> exact ⟨rfl, fun _ => rfl⟩

private theorem seedless_stored (m : Machine δ κ τ) (written : Except Fault Memory) :
    Seedless (·.stored written) m := by
  cases written <;> exact ⟨rfl, fun _ => rfl⟩

private theorem seedless_call (m : Machine δ κ τ) (target : Address) :
    Seedless (·.call target) m := by
  unfold call
  constructor
  · split <;> rfl
  · intro seed
    -- The two machines test the same depth by instances that differ, so each test is settled alone.
    by_cases full : maxDepth ≤ m.stack.length
    · have there : maxDepth ≤ (m.reseed seed).stack.length := full
      simp only [if_pos full, if_pos there]
      rfl
    · have there : ¬ maxDepth ≤ (m.reseed seed).stack.length := full
      simp only [if_neg full, if_neg there]
      rfl

private theorem seedless_ret (m : Machine δ κ τ) : Seedless ret m := by
  unfold ret
  constructor
  · split <;> rfl
  · intro seed
    simp only [stack_reseed]
    split <;> rfl

private theorem seedless_draw [Screen δ] (m : Machine δ κ τ) (x y : Register) (n : Nat) :
    Seedless (·.draw x y n) m := by
  unfold draw
  constructor
  · split <;> rfl
  · intro seed
    simp only [memory_reseed, i_reseed]
    split <;> rfl

variable [Keypad κ]

private theorem seedless_skipOnKey (m : Machine δ κ τ) (x : Register) (down : Bool) :
    Seedless (·.skipOnKey x down) m := by
  by_cases noKey : 0xf < m.v.get x
  · exact (seedless_skipWhen m (!down)).of_eq (if_pos noKey) fun _ => if_pos noKey
  · constructor
    · simp only [skipOnKey, if_neg noKey]
      split
      · rfl
      · exact (seedless_skipWhen (m.afterKeypad _) _).random
    · intro seed
      have there : ¬ 0xf < (m.reseed seed).v.get x := noKey
      simp only [skipOnKey, if_neg noKey, if_neg there]
      simp only [v_reseed, keypad_reseed]
      split
      · rfl
      · exact (seedless_skipWhen (m.afterKeypad _) _).reseed seed

private theorem seedless_waitKey (m : Machine δ κ τ) (x : Register) :
    Seedless (·.waitKey x) m := by
  constructor
  · simp only [waitKey]
    split <;> rfl
  · intro seed
    simp only [waitKey, keypad_reseed]
    split <;> rfl

private theorem seedless_loadRegs [Screen δ] (m : Machine δ κ τ) (x : Register) :
    Seedless (·.execute (.loadRegs x)) m := by
  constructor
  · simp only [execute]
    split <;> rfl
  · intro seed
    have count : (m.reseed seed).transferCount x = m.transferCount x := rfl
    simp only [execute, memory_reseed, i_reseed, count]
    split <;> rfl

variable [Screen δ]

theorem seedless_execute (m : Machine δ κ τ) (instruction : Instruction)
    (other : ∀ x kk, instruction ≠ .random x kk) : Seedless (·.execute instruction) m := by
  cases instruction with
  | random x kk => exact absurd rfl (other x kk)
  | ret => exact seedless_ret m
  | call nnn => exact seedless_call m nnn
  | draw x y n => exact seedless_draw m x y n.val
  | skipEqImm x kk | skipNeImm x kk | skipEqReg x y | skipNeReg x y =>
    exact (seedless_skipWhen m _).of_eq rfl fun _ => rfl
  | skipKeyPressed x | skipKeyNotPressed x => exact seedless_skipOnKey m x _
  | waitKey x => exact seedless_waitKey m x
  | storeBcd x | storeRegs x => exact (seedless_stored m _).of_eq rfl fun _ => rfl
  | loadRegs x => exact seedless_loadRegs m x
  | _ => exact ⟨rfl, fun _ => rfl⟩

end Execution

section Quiet

theorem seedless_load (m : Machine δ κ τ) (program : List UInt8) :
    Seedless (·.load program) m := by
  unfold load
  constructor
  · cases m.memory.load program <;> rfl
  · intro seed
    rw [memory_reseed]
    cases m.memory.load program <;> rfl

theorem seedless_loadFrom (m : Machine δ κ τ) (source : Source) :
    Seedless (·.loadFrom source) m := by
  unfold loadFrom
  cases source.readAll with
  | ok program => exact seedless_load m program
  | error error => exact ⟨rfl, fun _ => rfl⟩

theorem seedless_pressKey (m : Machine δ κ τ) (key : UInt8) :
    Seedless (fun m => .done (m.pressKey key).1 (m.pressKey key).2) m := by
  unfold pressKey
  constructor
  · split
    · rfl
    · split <;> rfl
  · intro seed
    simp only [mode_reseed]
    split
    · rfl
    · split <;> rfl

theorem seedless_pollKey [Keypad κ] (m : Machine δ κ τ) : Seedless pollKey m := by
  have heard (key : UInt8) :=
    seedless_pressKey (m.afterKeypad (Keypad.takePress m.keypad)) key
  unfold pollKey
  constructor
  · split
    · rfl
    · rfl
    · dsimp only
      split
      · rfl
      · rfl
      · exact (heard _).random
  · intro seed
    simp only [mode_reseed, keypad_reseed]
    split
    · rfl
    · rfl
    · split
      · rfl
      · rfl
      · exact congrArg (fun outcome => finish outcome.state) ((heard _).reseed seed)

private theorem tickWhenRunning_reseed (seed : UInt64) (m : Machine δ κ τ) :
    (m.reseed seed).tickWhenRunning = m.tickWhenRunning.reseed seed := by
  unfold tickWhenRunning
  rw [mode_reseed]
  split <;> rfl

private theorem random_tickWhenRunning (m : Machine δ κ τ) :
    m.tickWhenRunning.random = m.random := by
  unfold tickWhenRunning
  split <;> rfl

private theorem driveSpeaker_reseed [Speaker τ] (seed : UInt64) (m : Machine δ κ τ) :
    (m.reseed seed).driveSpeaker = m.driveSpeaker.reseed seed := by
  have asked : (if 0 < (m.reseed seed).sound
      then Speaker.play (m.reseed seed).speaker (m.reseed seed).settings.tone
      else Speaker.stop (m.reseed seed).speaker) =
    if 0 < m.sound then Speaker.play m.speaker m.settings.tone else Speaker.stop m.speaker := rfl
  by_cases lost : m.toneLost
  · have there : (m.reseed seed).toneLost := lost
    rw [driveSpeaker, driveSpeaker, if_pos lost, if_pos there]
  · have there : ¬ (m.reseed seed).toneLost := lost
    rw [driveSpeaker, driveSpeaker, if_neg lost, if_neg there, asked]
    generalize (if 0 < m.sound then Speaker.play m.speaker m.settings.tone
      else Speaker.stop m.speaker) = reply
    obtain ⟨answer, speaker, events⟩ := reply
    cases answer <;> rfl

theorem seedless_endCycle [Screen δ] [Speaker τ] (m : Machine δ κ τ) :
    Seedless endCycle m := by
  constructor
  · have shown := congrArg Core.random (toCore_render m.tickWhenRunning.driveSpeaker)
    rw [toCore_driveSpeaker, random_tickWhenRunning] at shown
    exact shown
  · intro seed
    simp only [endCycle, tickWhenRunning_reseed, driveSpeaker_reseed]
    generalize m.tickWhenRunning.driveSpeaker = spoken
    have screen : (spoken.reseed seed).screen = spoken.screen := rfl
    simp only [render, screen]
    split <;> rfl

end Quiet

end Machine

end Chip8
