import Chip8.Proofs.Instruction.Layout
import Chip8.Proofs.Machine.Faults

namespace Chip8

open Instruction

namespace Word

/-- The words that may pass over the next word. -/
def Skips (word : UInt16) : Prop :=
  word.toNat / 4096 = 0x3 ∨ word.toNat / 4096 = 0x4 ∨
    (word.toNat / 4096 = 0x5 ∨ word.toNat / 4096 = 0x9) ∧ word.toNat % 16 = 0x0 ∨ Asks word

/-- The words after which `pc` may be elsewhere than behind the word. -/
def Turns (word : UInt16) : Prop :=
  word.toNat / 4096 = 0x1 ∨ word.toNat / 4096 = 0x2 ∨ word.toNat / 4096 = 0xb ∨
    word.toNat = 0x00ee ∨ Skips word

theorem not_turns {word : UInt16} (family : word.toNat / 4096 = 0x6 ∨ word.toNat / 4096 = 0x7 ∨
    word.toNat / 4096 = 0x8 ∨ word.toNat / 4096 = 0xa ∨ word.toNat / 4096 = 0xc ∨
    word.toNat / 4096 = 0xd ∨ word.toNat / 4096 = 0xf) : ¬ Turns word := by
  unfold Turns Skips Asks
  omega

/-- The pairs of skips with the same operands, of which the second asks for the opposite. -/
inductive Opposed (word other : UInt16) : Prop where
  | bytes (families : word.toNat / 4096 = 0x3 ∧ other.toNat / 4096 = 0x4)
      (operands : word.toNat % 4096 = other.toNat % 4096)
  | registers (families : word.toNat / 4096 = 0x5 ∧ other.toNat / 4096 = 0x9)
      (operands : word.toNat % 4096 = other.toNat % 4096) (low : word.toNat % 16 = 0x0)
  | keys (family : word.toNat / 4096 = 0xe) (register : word.toNat / 256 = other.toNat / 256)
      (lows : word.toNat % 256 = 0x9e ∧ other.toNat % 256 = 0xa1)

end Word

namespace Machine

variable {δ κ τ : Type}

/-- Where `pc` stands in `after`, which comes of a step of `m` with a word. -/
inductive Heads (m after : Machine δ κ τ) (word : UInt16) : Prop where
  | onward (straight : ¬ Word.Turns word) (pc : after.pc.toNat = m.pc.toNat + 2)
  | skips (skip : Word.Skips word)
      (pc : after.pc.toNat = m.pc.toNat + 2 ∨ after.pc.toNat = m.pc.toNat + 4)
  | jumps (family : word.toNat / 4096 = 0x1 ∨ word.toNat / 4096 = 0x2)
      (pc : after.pc.toNat = word.toNat % 4096)
  | jumpsFar (family : word.toNat / 4096 = 0xb)
      (pc : after.pc.toNat = word.toNat % 4096 + (m.register 0).toNat)
  | returns (back : word.toNat = 0x00ee) (pc : m.stack = after.pc :: after.stack)

section Skips

variable [Keypad κ]

/-- Whether the key named by a byte is down. A number that is no key is never down. -/
def isDown (keypad : κ) (byte : UInt8) : Except DeviceError Bool :=
  if 0xf < byte then .ok false else (Keypad.isPressed keypad (keyOfByte byte)).answer

/-- Whether an instruction skips, if it is one that may. -/
def asks? (v : Vector UInt8 16) (keypad : κ) : Instruction → Option (Except DeviceError Bool)
  | .skipEqImm x kk => some (.ok (v.get x == kk))
  | .skipNeImm x kk => some (.ok (v.get x != kk))
  | .skipEqReg x y => some (.ok (v.get x == v.get y))
  | .skipNeReg x y => some (.ok (v.get x != v.get y))
  | .skipKeyPressed x => some ((isDown keypad (v.get x)).map (· == true))
  | .skipKeyNotPressed x => some ((isDown keypad (v.get x)).map (· == false))
  | _ => none

/-- What a machine does on the answer to a skip. -/
def skipOn (asked : Machine δ κ τ) : Except DeviceError Bool → Outcome (Machine δ κ τ) Unit
  | .error error => .failed (.device error) asked
  | .ok condition => .done () (asked.skipWhen condition)

private theorem skipOnKey_eq (m : Machine δ κ τ) (x : Register) (down : Bool) :
    ∃ asked : Machine δ κ τ, asked.pc = m.pc ∧
      m.skipOnKey x down = asked.skipOn ((isDown m.keypad (m.v.get x)).map (· == down)) := by
  simp only [skipOnKey, isDown]
  split
  · exact ⟨m, rfl, by cases down <;> rfl⟩
  · refine ⟨m.afterKeypad (Keypad.isPressed m.keypad (keyOfByte (m.v.get x))), rfl, ?_⟩
    cases (Keypad.isPressed m.keypad (keyOfByte (m.v.get x))).answer <;> rfl

theorem execute_asks [Screen δ] {m : Machine δ κ τ} {instruction : Instruction}
    {answer : Except DeviceError Bool} (asks : asks? m.v m.keypad instruction = some answer) :
    ∃ asked : Machine δ κ τ, asked.pc = m.pc ∧ m.execute instruction = asked.skipOn answer := by
  cases instruction with
  | skipEqImm x kk | skipNeImm x kk | skipEqReg x y | skipNeReg x y =>
    cases asks
    exact ⟨m, rfl, rfl⟩
  | skipKeyPressed x =>
    cases asks
    exact skipOnKey_eq m x true
  | skipKeyNotPressed x =>
    cases asks
    exact skipOnKey_eq m x false
  | _ => cases asks

end Skips

section Heads

variable {m after : Machine δ κ τ} {word : UInt16} {instruction : Instruction}

private theorem toNat_pc_skipWhen (found : m.fetch = .ok (word, instruction))
    {asked : Machine δ κ τ} (passed : asked.pc = m.pc + 2) (condition : Bool) :
    (asked.skipWhen condition).pc.toNat = m.pc.toNat + if condition then 4 else 2 := by
  obtain ⟨next, inside⟩ := isReturn_past found
  cases condition with
  | false => exact (congrArg UInt16.toNat passed).trans next
  | true =>
    have farther : (m.pc + 2 + 2).toNat = (m.pc + 2).toNat + 2 := Core.toNat_next inside.2
    change (asked.pc + 2).toNat = _
    rw [passed, farther, next]
    rfl

variable [Screen δ] [Keypad κ]

/-- An instruction that may skip has been answered if it has finished, and skips on that answer. -/
private theorem pc_of_asks (found : m.fetch = .ok (word, instruction))
    {answer : Except DeviceError Bool} (asks : asks? m.v m.keypad instruction = some answer)
    (done : (m.past word instruction).execute instruction = .done () after) :
    ∃ condition, answer = .ok condition ∧
      after.pc.toNat = m.pc.toNat + if condition then 4 else 2 := by
  obtain ⟨asked, passed, outcome⟩ := execute_asks (m := m.past word instruction) asks
  rw [outcome] at done
  cases answer with
  | error error => cases done
  | ok condition =>
    cases done
    exact ⟨condition, rfl, toNat_pc_skipWhen found passed condition⟩

private theorem heads_of_asks (found : m.fetch = .ok (word, instruction))
    {answer : Except DeviceError Bool} (asks : asks? m.v m.keypad instruction = some answer)
    (done : (m.past word instruction).execute instruction = .done () after)
    (skip : Word.Skips word) : Heads m after word := by
  obtain ⟨condition, _, pc⟩ := pc_of_asks found asks done
  refine .skips skip ?_
  rw [pc]
  cases condition with
  | false => exact .inl rfl
  | true => exact .inr rfl

theorem heads_execute (found : m.fetch = .ok (word, instruction))
    (done : (m.past word instruction).execute instruction = .done () after) :
    Heads m after word := by
  obtain ⟨stands, decoded⟩ := (m.fetch_ok_iff word instruction).mp found
  have digits := congrArg UInt16.toNat (encode_of_ofWord? decoded)
  obtain ⟨next, _⟩ := isReturn_past found
  cases instruction with
  | sys nnn =>
    -- By its digits alone this could be the word of a return, which is decoded as such.
    have notReturn := (wellFormed_of_ofWord? decoded).2
    simp only [encode, wordOfAddress, UInt16.toNat_ofNat'] at digits
    cases done
    exact .onward (by unfold Word.Turns Word.Skips Word.Asks; omega) next
  | clearScreen =>
    have digits : 0x00e0 = word.toNat := digits
    cases done
    exact .onward (by unfold Word.Turns Word.Skips Word.Asks; omega) next
  | ret =>
    simp only [execute, ret] at done
    split at done
    · cases done
    · rename_i top
      cases done
      exact .returns digits.symm top
  | jump nnn =>
    simp only [encode, wordOfAddress, UInt16.toNat_ofNat'] at digits
    have target : (UInt16.ofNat nnn.val).toNat = word.toNat % 4096 := by
      rw [UInt16.toNat_ofNat']
      omega
    cases done
    exact .jumps (by omega) target
  | call nnn =>
    simp only [encode, wordOfAddress, UInt16.toNat_ofNat'] at digits
    have target : (UInt16.ofNat nnn.val).toNat = word.toNat % 4096 := by
      rw [UInt16.toNat_ofNat']
      omega
    simp only [execute, call] at done
    split at done
    · cases done
    · cases done
      exact .jumps (by omega) target
  | jumpV0 nnn =>
    simp only [encode, wordOfAddress, UInt16.toNat_ofNat'] at digits
    have offset := (m.register 0).toNat_lt
    have target : (UInt16.ofNat (nnn.val + (m.register 0).toNat)).toNat =
        word.toNat % 4096 + (m.register 0).toNat := by
      rw [UInt16.toNat_ofNat']
      omega
    cases done
    exact .jumpsFar (by omega) target
  | loadIndex nnn =>
    simp only [encode, wordOfAddress, UInt16.toNat_ofNat'] at digits
    cases done
    exact .onward (Word.not_turns (by omega)) next
  | skipEqImm x kk | skipNeImm x kk =>
    simp only [encode, wordOfByte, UInt16.toNat_ofNat'] at digits
    have byte := kk.toNat_lt
    exact heads_of_asks found rfl done (by unfold Word.Skips; omega)
  | skipEqReg x y | skipNeReg x y =>
    simp only [encode, wordOfPair, UInt16.toNat_ofNat'] at digits
    exact heads_of_asks found rfl done (by unfold Word.Skips; omega)
  | skipKeyPressed x | skipKeyNotPressed x =>
    simp only [encode, wordOfByte, UInt16.toNat_ofNat'] at digits
    exact heads_of_asks found rfl done (by unfold Word.Skips Word.Asks; omega)
  | loadImm x kk | addImm x kk | random x kk =>
    simp only [encode, wordOfByte, UInt16.toNat_ofNat'] at digits
    have byte := kk.toNat_lt
    cases done
    exact .onward (Word.not_turns (by omega)) next
  | move x y | or x y | and x y | xor x y | addReg x y | subReg x y | shiftRight x y
  | subRegInv x y | shiftLeft x y =>
    simp only [encode, wordOfPair, UInt16.toNat_ofNat'] at digits
    cases done
    exact .onward (Word.not_turns (by omega)) next
  | loadDelay x | setDelay x | setSound x | addIndex x | loadGlyph x =>
    simp only [encode, wordOfByte, UInt16.toNat_ofNat'] at digits
    cases done
    exact .onward (Word.not_turns (by omega)) next
  | draw x y n =>
    simp only [encode, wordOfPair, UInt16.toNat_ofNat'] at digits
    have straight : ¬ Word.Turns word := Word.not_turns (by omega)
    simp only [execute, draw] at done
    split at done <;> cases done
    exact .onward straight next
  | waitKey x =>
    simp only [encode, wordOfByte, UInt16.toNat_ofNat'] at digits
    have straight : ¬ Word.Turns word := Word.not_turns (by omega)
    simp only [execute, waitKey] at done
    split at done <;> cases done
    exact .onward straight next
  | storeBcd x | storeRegs x =>
    simp only [encode, wordOfByte, UInt16.toNat_ofNat'] at digits
    have straight : ¬ Word.Turns word := Word.not_turns (by omega)
    obtain ⟨memory, _, same⟩ := stored_done done
    rw [same]
    exact .onward straight next
  | loadRegs x =>
    simp only [encode, wordOfByte, UInt16.toNat_ofNat'] at digits
    have straight : ¬ Word.Turns word := Word.not_turns (by omega)
    simp only [execute] at done
    split at done <;> cases done
    exact .onward straight next

/-- Two opposed skips ask the same thing and take the answers the other way round. -/
private theorem asks_opposed {word other : UInt16} (opposed : Word.Opposed word other) :
    ∃ instruction opposite, ofWord? word = some instruction ∧ ofWord? other = some opposite ∧
      ∀ (v : Vector UInt8 16) (keypad : κ), ∃ answer, asks? v keypad instruction = some answer ∧
        asks? v keypad opposite = some (answer.map not) := by
  cases opposed with
  | bytes families operands =>
    have x : Word.x word = Word.x other := Fin.ext (by simp only [Word.x, Nibble.val_ofNat]; omega)
    have kk : Word.kk word = Word.kk other := by
      rw [← UInt8.toNat_inj, Word.toNat_kk, Word.toNat_kk]
      omega
    refine ⟨.skipEqImm (Word.x word) (Word.kk word), .skipNeImm (Word.x word) (Word.kk word),
      ?_, ?_, fun v keypad => ⟨_, rfl, rfl⟩⟩
    · simp only [ofWord?, Word.family, families.1]
    · simp only [ofWord?, Word.family, families.2, x, kk]
  | registers families operands low =>
    have x : Word.x word = Word.x other := Fin.ext (by simp only [Word.x, Nibble.val_ofNat]; omega)
    have y : Word.y word = Word.y other := Fin.ext (by simp only [Word.y, Nibble.val_ofNat]; omega)
    have otherLow : other.toNat % 16 = 0 := by omega
    refine ⟨.skipEqReg (Word.x word) (Word.y word), .skipNeReg (Word.x word) (Word.y word),
      ?_, ?_, fun v keypad => ⟨_, rfl, rfl⟩⟩
    · simp only [ofWord?, Word.family, families.1, Word.n, Nibble.val_ofNat, low, if_true]
    · simp only [ofWord?, Word.family, families.2, Word.n, Nibble.val_ofNat, otherLow, if_true, x,
        y]
  | keys family register lows =>
    have otherFamily : other.toNat / 4096 = 0xe := by omega
    have x : Word.x word = Word.x other := by rw [Word.x, register, Word.x]
    refine ⟨.skipKeyPressed (Word.x word), .skipKeyNotPressed (Word.x word),
      ?_, ?_, fun v keypad => ⟨_, rfl, ?_⟩⟩
    · simp only [ofWord?, Word.family, family, Word.toNat_kk, lows.1, if_true]
    · simp only [ofWord?, Word.family, otherFamily, Word.toNat_kk, lows.2, x]
      rfl
    · rw [asks?]
      cases isDown keypad (v.get (Word.x word)) with
      | error error => rfl
      | ok held => cases held <;> rfl

omit [Screen δ] in
private theorem asks_either {word other : UInt16}
    (opposed : Word.Opposed word other ∨ Word.Opposed other word) :
    ∃ instruction opposite, ofWord? word = some instruction ∧ ofWord? other = some opposite ∧
      ∀ (v : Vector UInt8 16) (keypad : κ), ∃ answer, asks? v keypad instruction = some answer ∧
        asks? v keypad opposite = some (answer.map not) := by
  rcases opposed with opposed | opposed
  · exact asks_opposed opposed
  · obtain ⟨opposite, instruction, decodedOther, decoded, answers⟩ := asks_opposed (κ := κ) opposed
    refine ⟨instruction, opposite, decoded, decodedOther, fun v keypad => ?_⟩
    obtain ⟨answer, asks, opposite⟩ := answers v keypad
    refine ⟨_, opposite, asks.trans ?_⟩
    cases answer with
    | error error => rfl
    | ok condition => exact congrArg (some ∘ Except.ok) (Bool.not_not condition).symm

/-- If a skip finishes, then so does the opposed one in its place, and one of them skips. -/
theorem step_opposed {memory : Memory} {other : UInt16} (running : m.mode = .running)
    (stands : m.Stands word) (done : m.step = .done () after)
    (opposed : Word.Opposed word other ∨ Word.Opposed other word)
    (replaced : Stands { m with memory } other) :
    ∃ instead, step { m with memory } = .done () instead ∧
      (after.pc.toNat = m.pc.toNat + 4 ∧ instead.pc.toNat = m.pc.toNat + 2 ∨
        after.pc.toNat = m.pc.toNat + 2 ∧ instead.pc.toNat = m.pc.toNat + 4) := by
  obtain ⟨instruction, opposite, decoded, decodedOther, answers⟩ := asks_either (κ := κ) opposed
  obtain ⟨answer, asks, asksOther⟩ := answers m.v m.keypad
  have found := (m.fetch_ok_iff word instruction).mpr ⟨stands, decoded⟩
  have foundOther := (fetch_ok_iff { m with memory } other opposite).mpr ⟨replaced, decodedOther⟩
  obtain ⟨word', instruction', found', executed⟩ := step_done running done
  rw [found] at found'
  cases found'
  obtain ⟨condition, answered, pc⟩ := pc_of_asks found asks executed
  subst answered
  obtain ⟨asked, passed, outcome⟩ :=
    execute_asks (m := past { m with memory } other opposite) asksOther
  refine ⟨_, step_of_done running foundOther outcome, ?_⟩
  rw [pc, toNat_pc_skipWhen foundOther passed]
  cases condition with
  | false => exact .inr ⟨rfl, rfl⟩
  | true => exact .inl ⟨rfl, rfl⟩

end Heads

end Machine

end Chip8
