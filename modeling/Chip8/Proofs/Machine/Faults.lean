import Chip8.Device.Headless
import Chip8.Proofs.Instruction.Word
import Chip8.Proofs.Machine.Bounds

/-! When a step faults, and how. The causes are told by the digits of the word at `pc`, by the
index, by the depth of the stack and by the replies of the keypad, without a decoder. -/
namespace Chip8

open Instruction

variable {δ κ τ : Type}

namespace Machine

/-- Whether a word stands at `pc`. -/
def Stands (m : Machine δ κ τ) (word : UInt16) : Prop :=
  m.pc.toNat + 2 ≤ 4096 ∧ word.toNat = m.memory.wordValue m.pc.toNat

instance (m : Machine δ κ τ) (word : UInt16) : Decidable (m.Stands word) :=
  inferInstanceAs (Decidable (_ ∧ _))

/-- The fault of the next step. -/
inductive Faults [Keypad κ] (m : Machine δ κ τ) : Fault → Prop where
  | unfetched (past : 4096 < m.pc.toNat + 2) : Faults m (.memoryOutOfBounds m.pc.toNat 2)
  | undefined {word : UInt16} (stands : m.Stands word) (undefined : Word.Undefined word) :
      Faults m (.unknownOpcode word)
  | underflow (stands : m.Stands 0x00ee) (empty : m.stack = []) : Faults m .stackUnderflow
  | overflow {word : UInt16} (stands : m.Stands word) (call : word.toNat / 4096 = 0x2)
      (full : m.stack.length = 16) : Faults m (.stackOverflow 16)
  | outside {word : UInt16} {len : Nat} (stands : m.Stands word)
      (reaches : Word.Reaches m.settings.inclusive word len) (past : 4096 < m.i.toNat + len) :
      Faults m (.memoryOutOfBounds m.i.toNat len)
  | held {word : UInt16} {error : DeviceError} (stands : m.Stands word) (asks : Word.Asks word)
      (key : m.register (word.toNat / 256) ≤ 0xf)
      (broken : (Keypad.isPressed m.keypad
        (keyOfByte (m.register (word.toNat / 256)))).answer = .error error) :
      Faults m (.device error)
  | presses {word : UInt16} {error : DeviceError} (stands : m.Stands word)
      (waits : Word.Waits word) (broken : Keypad.Breaks m.keypad error) :
      Faults m (.device error)

/-- Whether the next step ends. One that waits for a key first takes the presses that are left, and
does not end before they do. -/
def StepEnds [Keypad κ] (m : Machine δ κ τ) : Prop :=
  ∀ word x, m.fetch = .ok (word, .waitKey x) → ∃ answer, Keypad.Drains m.keypad answer

/-- Whether the next step ends, and with this result. -/
def Returns [Screen δ] [Keypad κ] (m : Machine δ κ τ) (result : Except Fault Unit) : Prop :=
  m.StepEnds ∧ m.step.result = result

theorem fetch_ok_iff (m : Machine δ κ τ) (word : UInt16) (instruction : Instruction) :
    m.fetch = .ok (word, instruction) ↔ m.Stands word ∧ ofWord? word = some instruction := by
  have decoded : decode word = .ok instruction ↔ ofWord? word = some instruction := by
    unfold decode
    cases ofWord? word <;> simp
  rw [fetch_eq_ok_iff, Memory.readWord_eq_ok_iff, decoded]
  rfl

private theorem fetch_error_iff (m : Machine δ κ τ) (fault : Fault) :
    m.fetch = .error fault ↔
      4096 < m.pc.toNat + 2 ∧ fault = .memoryOutOfBounds m.pc.toNat 2 ∨
        ∃ word, m.Stands word ∧ Word.Undefined word ∧ fault = .unknownOpcode word := by
  constructor
  · intro refused
    unfold fetch at refused
    split at refused
    · rename_i past
      cases refused
      obtain ⟨outside, same⟩ := (m.memory.readWord_eq_error_iff m.pc _).mp past
      exact .inl ⟨Nat.lt_of_not_le outside, same⟩
    · rename_i word read
      have stands := (m.memory.readWord_eq_ok_iff m.pc word).mp read
      unfold decode at refused
      cases decoded : ofWord? word with
      | some instruction =>
        rw [decoded] at refused
        cases refused
      | none =>
        rw [decoded] at refused
        cases refused
        exact .inr ⟨word, stands, (ofWord?_eq_none_iff word).mp decoded, rfl⟩
  · rintro (⟨past, same⟩ | ⟨word, stands, undefined, same⟩)
    · have refused := (m.memory.readWord_eq_error_iff m.pc fault).mpr
        ⟨Nat.not_le_of_lt past, same⟩
      simp only [fetch, refused]
    · have read := (m.memory.readWord_eq_ok_iff m.pc word).mpr stands
      have refused := (ofWord?_eq_none_iff word).mpr undefined
      simp only [fetch, read, decode, refused, same]

private theorem reaches_of_reach {m : Machine δ κ τ} {word : UInt16} {instruction : Instruction}
    {len : Nat} (decoded : ofWord? word = some instruction)
    (reach : m.reach? instruction = some len) : Word.Reaches m.settings.inclusive word len := by
  have same := congrArg UInt16.toNat (encode_of_ofWord? decoded)
  cases instruction with
  | draw x y n =>
    cases reach
    rw [encode, toNat_wordOfPair (by decide)] at same
    have range := n.isLt
    have low : n.val = word.toNat % 16 := by omega
    rw [low]
    exact .draw (by omega)
  | storeBcd x =>
    cases reach
    rw [encode, toNat_wordOfByte (by decide) x (by decide)] at same
    exact .decimal (by omega) (by omega)
  | storeRegs x | loadRegs x =>
    cases reach
    rw [encode, toNat_wordOfByte (by decide) x (by decide)] at same
    have range := x.isLt
    have digit : x.val = word.toNat / 256 % 16 := by omega
    rw [transferCount_eq, digit]
    exact .transfer (by omega) (by omega)
  | _ => cases reach

private theorem reach_of_reaches {m : Machine δ κ τ} {word : UInt16} {len : Nat}
    (reaches : Word.Reaches m.settings.inclusive word len) :
    ∃ instruction, ofWord? word = some instruction ∧ m.reach? instruction = some len := by
  cases reaches with
  | draw family =>
    exact ⟨.draw (Word.x word) (Word.y word) (Word.n word),
      by simp only [ofWord?, Word.family, family], rfl⟩
  | decimal family low =>
    exact ⟨.storeBcd (Word.x word),
      by simp only [ofWord?, Word.family, family, Word.toNat_kk, low, ofMisc?], rfl⟩
  | transfer family low =>
    have count := m.transferCount_eq (Word.x word)
    rcases low with low | low
    · refine ⟨.storeRegs (Word.x word), ?_, congrArg some count⟩
      simp only [ofWord?, Word.family, family, Word.toNat_kk, low, ofMisc?]
    · refine ⟨.loadRegs (Word.x word), ?_, congrArg some count⟩
      simp only [ofWord?, Word.family, family, Word.toNat_kk, low, ofMisc?]

private theorem asks_of_asksFor {word : UInt16} {instruction : Instruction} {x : Register}
    (decoded : ofWord? word = some instruction) (asks : AsksFor x instruction) :
    Word.Asks word ∧ x = Nibble.ofNat (word.toNat / 256) := by
  have same := congrArg UInt16.toNat (encode_of_ofWord? decoded)
  have range := x.isLt
  rcases asks with named | named
  all_goals
    subst named
    rw [encode, toNat_wordOfByte (by decide) x (by decide)] at same
    exact ⟨⟨by omega, by omega⟩, Fin.ext (by rw [Nibble.val_ofNat]; omega)⟩

private theorem asksFor_of_asks {word : UInt16} (asks : Word.Asks word) :
    ∃ instruction, ofWord? word = some instruction ∧
      AsksFor (Nibble.ofNat (word.toNat / 256)) instruction := by
  obtain ⟨family, low | low⟩ := asks
  · refine ⟨.skipKeyPressed (Word.x word), ?_, .inl rfl⟩
    simp only [ofWord?, Word.family, family, Word.toNat_kk, low, if_true]
  · refine ⟨.skipKeyNotPressed (Word.x word), ?_, .inr rfl⟩
    simp only [ofWord?, Word.family, family, Word.toNat_kk, low]
    rfl

private theorem waits_of_waitKey {word : UInt16} {x : Register}
    (decoded : ofWord? word = some (.waitKey x)) : Word.Waits word := by
  have same := congrArg UInt16.toNat (encode_of_ofWord? decoded)
  rw [encode, toNat_wordOfByte (by decide) x (by decide)] at same
  have range := x.isLt
  exact ⟨by omega, by omega⟩

private theorem waitKey_of_waits {word : UInt16} (waits : Word.Waits word) :
    ofWord? word = some (.waitKey (Word.x word)) := by
  obtain ⟨family, low⟩ := waits
  simp only [ofWord?, Word.family, family, Word.toNat_kk, low, ofMisc?]

section Keypad

variable [Keypad κ]

private theorem stepEnds_of_fetch {m : Machine δ κ τ} {word : UInt16} {instruction : Instruction}
    (other : ∀ x, instruction ≠ .waitKey x) (found : m.fetch = .ok (word, instruction)) :
    m.StepEnds := by
  intro _ x waits
  rw [found] at waits
  cases waits
  exact absurd rfl (other x)

private theorem faults_of_fails {m left : Machine δ κ τ} {word : UInt16}
    {instruction : Instruction} {fault : Fault} (depth : m.stack.length ≤ 16) (ends : m.StepEnds)
    (found : m.fetch = .ok (word, instruction))
    (fails : Fails (m.past word instruction) instruction fault left) : m.Faults fault := by
  obtain ⟨stands, decoded⟩ := (m.fetch_ok_iff word instruction).mp found
  have same := encode_of_ofWord? decoded
  cases fails with
  | underflow empty =>
    rw [← same] at stands
    exact .underflow stands empty
  | overflow target full =>
    have count : m.stack.length = 16 := Nat.le_antisymm depth full
    have value := congrArg UInt16.toNat same
    rw [encode, toNat_wordOfAddress (by decide)] at value
    have range := target.isLt
    have call : word.toNat / 4096 = 0x2 := by omega
    have faults : m.Faults (.stackOverflow 16) := .overflow stands call count
    rw [← count] at faults
    exact faults
  | outside reach past =>
    exact .outside stands (reaches_of_reach decoded reach) (Nat.lt_of_not_le past)
  | held asks key broken =>
    obtain ⟨asking, named⟩ := asks_of_asksFor decoded asks
    subst named
    exact .held stands asking key broken
  | presses x broken =>
    obtain ⟨answer, drains⟩ := ends word x found
    have answered := Keypad.answer_discardPresses drains
    rw [answered.symm.trans broken] at drains
    exact .presses stands (waits_of_waitKey decoded) drains

end Keypad

variable [Screen δ] [Keypad κ]

private theorem returns_of_refused {m : Machine δ κ τ} {fault : Fault} (running : m.mode = .running)
    (refused : m.fetch = .error fault) : m.Returns (.error fault) := by
  refine ⟨fun word x found => ?_, ?_⟩
  · rw [refused] at found
    cases found
  · rw [step_of_refused running refused]
    rfl

private theorem returns_of_fails {m left : Machine δ κ τ} {word : UInt16}
    {instruction : Instruction} {fault : Fault} (running : m.mode = .running)
    (ends : m.StepEnds) (found : m.fetch = .ok (word, instruction))
    (fails : Fails (m.past word instruction) instruction fault left) :
    m.Returns (.error fault) := by
  refine ⟨ends, ?_⟩
  rw [step_of_fails running found fails]
  rfl

private theorem returns_of_faults {m : Machine δ κ τ} {fault : Fault} (running : m.mode = .running)
    (faults : m.Faults fault) : m.Returns (.error fault) := by
  cases faults with
  | unfetched past =>
    exact returns_of_refused running ((m.fetch_error_iff _).mpr (.inl ⟨past, rfl⟩))
  | undefined stands undefined =>
    exact returns_of_refused running ((m.fetch_error_iff _).mpr (.inr ⟨_, stands, undefined, rfl⟩))
  | underflow stands empty =>
    have found := (m.fetch_ok_iff 0x00ee .ret).mpr ⟨stands, by decide⟩
    have ends := stepEnds_of_fetch (fun _ => Instruction.noConfusion) found
    exact returns_of_fails running ends found (.underflow empty)
  | @overflow word stands call full =>
    have decoded : ofWord? word = some (.call (Word.nnn word)) := by
      simp only [ofWord?, Word.family, call]
    have found := (m.fetch_ok_iff word _).mpr ⟨stands, decoded⟩
    have fails : Fails (m.past word (.call (Word.nnn word))) (.call (Word.nnn word))
        (.stackOverflow m.stack.length) _ := .overflow _ (Nat.le_of_eq full.symm)
    rw [full] at fails
    have ends := stepEnds_of_fetch (fun _ => Instruction.noConfusion) found
    exact returns_of_fails running ends found fails
  | outside stands reaches past =>
    obtain ⟨instruction, decoded, reach⟩ := reach_of_reaches reaches
    have found := (m.fetch_ok_iff _ instruction).mpr ⟨stands, decoded⟩
    have ends : m.StepEnds := by
      refine stepEnds_of_fetch (fun x waits => ?_) found
      rw [waits] at reach
      cases reach
    exact returns_of_fails running ends found (.outside reach (Nat.not_le_of_lt past))
  | held stands asks key broken =>
    obtain ⟨instruction, decoded, asks⟩ := asksFor_of_asks asks
    have found := (m.fetch_ok_iff _ instruction).mpr ⟨stands, decoded⟩
    have ends : m.StepEnds := by
      refine stepEnds_of_fetch (fun x waits => ?_) found
      rw [waits] at asks
      rcases asks with asks | asks <;> cases asks
    exact returns_of_fails running ends found (.held asks key broken)
  | presses stands waits breaks =>
    have found := (m.fetch_ok_iff _ _).mpr ⟨stands, waitKey_of_waits waits⟩
    exact returns_of_fails running (fun _ _ _ => ⟨_, breaks⟩) found
      (.presses _ (Keypad.answer_discardPresses breaks))

private theorem faults_of_returns {m : Machine δ κ τ} {fault : Fault} (running : m.mode = .running)
    (depth : m.stack.length ≤ 16) (returns : m.Returns (.error fault)) : m.Faults fault := by
  obtain ⟨ends, wrong⟩ := returns
  cases outcome : m.step with
  | done value after =>
    rw [outcome] at wrong
    cases wrong
  | failed cause stopped =>
    rw [outcome] at wrong
    cases wrong
    rcases step_failed running outcome with ⟨refused, _⟩ |
      ⟨word, instruction, left, found, fails, _⟩
    · rcases (m.fetch_error_iff fault).mp refused with ⟨past, same⟩ |
        ⟨word, stands, undefined, same⟩
      · rw [same]
        exact .unfetched past
      · rw [same]
        exact .undefined stands undefined
    · exact faults_of_fails depth ends found fails

private theorem returns_of_noKey {m : Machine δ κ τ} {word : UInt16} (running : m.mode = .running)
    (stands : m.Stands word) (asks : Word.Asks word)
    (noKey : 0xf < m.register (word.toNat / 256)) : m.Returns (.ok ()) := by
  obtain ⟨instruction, decoded, asking⟩ := asksFor_of_asks asks
  have found := (m.fetch_ok_iff word instruction).mpr ⟨stands, decoded⟩
  have passed : 0xf < (m.past word instruction).v.get (Nibble.ofNat (word.toNat / 256)) := noKey
  rcases asking with named | named
  all_goals
    subst named
    refine ⟨stepEnds_of_fetch (fun _ => Instruction.noConfusion) found, ?_⟩
    simp only [step, running, fetchAndExecute_eq, found, execute, skipOnKey, if_pos passed]
    rfl

/-- What a step gives. It ends unless it waits for a key and the keypad never runs out of presses,
and then it faults for the listed causes, each with its own fault, and for no others. -/
structure FaultsExactly (m : Machine δ κ τ) : Prop where
  faults (fault : Fault) : m.Returns (.error fault) ↔ m.Faults fault
  finishes : m.Returns (.ok ()) ↔
    (∀ fault, ¬ m.Faults fault) ∧
      ∀ word, m.Stands word → Word.Waits word → Keypad.RunsDry m.keypad
  endless : (∀ result, ¬ m.Returns result) ↔
    ∃ word, m.Stands word ∧ Word.Waits word ∧ ∀ answer, ¬ Keypad.Drains m.keypad answer
  noKey (word : UInt16) (stands : m.Stands word) (asks : Word.Asks word)
    (number : 0xf < m.register (word.toNat / 256)) : m.Returns (.ok ())

/-- A step of a machine with any history faults exactly when it should. A register that holds no
key's number never makes it fault, whatever state the keypad is in. -/
theorem step_faults_iff [Speaker τ] {m : Machine δ κ τ} (reachable : m.Reachable)
    (running : m.mode = .running) : m.FaultsExactly := by
  have exactly (fault : Fault) : m.Returns (.error fault) ↔ m.Faults fault :=
    ⟨faults_of_returns running (inRange_of_history reachable).depth, returns_of_faults running⟩
  have settled (ends : m.StepEnds) (none : ∀ fault, ¬ m.Faults fault) : m.Returns (.ok ()) := by
    cases result : m.step.result with
    | ok value => exact ⟨ends, result⟩
    | error fault => exact absurd ((exactly fault).mp ⟨ends, result⟩) (none fault)
  refine ⟨exactly, ⟨?_, ?_⟩, ⟨?_, ?_⟩, fun word => returns_of_noKey running⟩
  · rintro ⟨ends, finished⟩
    have none (fault : Fault) (faults : m.Faults fault) : False := by
      have wrong := ((exactly fault).mpr faults).2
      rw [finished] at wrong
      cases wrong
    refine ⟨none, fun word stands waits => ?_⟩
    obtain ⟨error | value, drains⟩ :=
      ends word _ ((m.fetch_ok_iff word _).mpr ⟨stands, waitKey_of_waits waits⟩)
    · exact (none _ (.presses stands waits drains)).elim
    · exact drains
  · rintro ⟨none, dry⟩
    refine settled (fun word x found => ?_) none
    obtain ⟨stands, decoded⟩ := (m.fetch_ok_iff word _).mp found
    exact ⟨_, dry word stands (waits_of_waitKey decoded)⟩
  · intro never
    refine Classical.byContradiction fun bounded =>
      never m.step.result ⟨fun word x found => ?_, rfl⟩
    obtain ⟨stands, decoded⟩ := (m.fetch_ok_iff word _).mp found
    refine Classical.byContradiction fun endless => bounded ?_
    exact ⟨word, stands, waits_of_waitKey decoded, not_exists.mp endless⟩
  · rintro ⟨word, stands, waits, endless⟩ result ⟨ends, _⟩
    obtain ⟨answer, drains⟩ :=
      ends word _ ((m.fetch_ok_iff word _).mpr ⟨stands, waitKey_of_waits waits⟩)
    exact endless answer drains

/-- A machine about to draw a sprite without rows from behind the end of memory. -/
def overshot : Machine (HeadlessScreen Grid.standard) ScriptedKeypad MuteSpeaker :=
  (create {} (HeadlessScreen.blank Grid.standard) {} {}).performAll
    [.load [0x60, 0xff, 0xaf, 0xff, 0xf0, 0x1e, 0xd0, 0x00], .step, .step, .step]

private theorem reachable_overshot : overshot.Reachable :=
  (reachable_create _ _ _ _ _).performAll _

private theorem overshot_eq :
    overshot.mode = .running ∧ overshot.Stands 0xd000 ∧ overshot.i.toNat = 0x10fe := by
  decide +kernel

theorem overshot_faults :
    overshot.Reachable ∧ overshot.mode = .running ∧
      overshot.Returns (.error (.memoryOutOfBounds 0x10fe 0)) := by
  obtain ⟨running, stands, index⟩ := overshot_eq
  have exactly := step_faults_iff reachable_overshot running
  refine ⟨reachable_overshot, running, (exactly.faults _).mpr ?_⟩
  rw [← index]
  exact .outside stands (.draw rfl) (by rw [index]; decide)

end Machine

/-- A keypad with a jammed key, which counts as pressed once more whenever a press is asked for. -/
structure JammedKeypad where

instance : Keypad JammedKeypad where
  isPressed keypad _ := ⟨.ok true, keypad, []⟩
  takePress keypad := ⟨.ok (some 0), keypad, []⟩
  wantsExit keypad := ⟨false, keypad, []⟩

private theorem JammedKeypad.not_drains (keypad : JammedKeypad) (answer : Except DeviceError Unit) :
    ¬ Keypad.Drains keypad answer := by
  intro drains
  induction drains with
  | dry empty => cases empty
  | broken failed => cases failed
  | more _ _ ih => exact ih

namespace Machine

/-- A machine about to wait for a key of a jammed keypad. -/
def jammed : Machine (HeadlessScreen Grid.standard) JammedKeypad MuteSpeaker :=
  (create {} (HeadlessScreen.blank Grid.standard) {} {}).performAll [.load [0xf0, 0x0a]]

/-- Its step has no cause to fault, and yet does not end. -/
theorem jammed_never_returns :
    jammed.Reachable ∧ jammed.mode = .running ∧ jammed.Stands 0xf00a ∧
      (∀ fault, ¬ jammed.Faults fault) ∧ ∀ result, ¬ jammed.Returns result := by
  have running : jammed.mode = .running := by decide +kernel
  have stands : jammed.Stands 0xf00a := by decide +kernel
  have found := (jammed.fetch_ok_iff 0xf00a (.waitKey 0)).mpr ⟨stands, by decide⟩
  have never (result : Except Fault Unit) : ¬ jammed.Returns result := by
    rintro ⟨ends, _⟩
    obtain ⟨answer, drains⟩ := ends _ _ found
    exact JammedKeypad.not_drains _ answer drains
  have noFault (fault : Fault) : ¬ jammed.Faults fault := fun faults =>
    never _ (returns_of_faults running faults)
  exact ⟨(reachable_create _ _ _ _ _).performAll _, running, stands, noFault, never⟩

end Machine

end Chip8
