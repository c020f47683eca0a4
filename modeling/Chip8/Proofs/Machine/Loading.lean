import Chip8.Machine
import Chip8.Proofs.Memory.Access

namespace Chip8

namespace Source

/-- What successive reads give, and how they fail if they do not come to an end. A read that gives
nothing is the end, whatever would follow; one that was interrupted is made again. -/
inductive Gives : Source → List UInt8 → Option DeviceError → Prop where
  | finished : Gives .finished [] none
  | failing (error : DeviceError) : Gives (.failing error) [] (some error)
  | interrupted {rest : Source} {bytes : List UInt8} {failure : Option DeviceError}
      (later : Gives rest bytes failure) : Gives (.interrupted rest) bytes failure
  | empty (rest : Source) : Gives (.chunk [] rest) [] none
  | chunk {first tail : List UInt8} {rest : Source} {failure : Option DeviceError}
      (some : first ≠ []) (later : Gives rest tail failure) :
      Gives (.chunk first rest) (first ++ tail) failure

variable {source : Source} {bytes : List UInt8}

theorem readAll_of_gives {failure : Option DeviceError} (gives : source.Gives bytes failure) :
    source.readAll = failure.elim (.ok bytes) .error := by
  induction gives with
  | finished | failing error | empty rest => rfl
  | interrupted _ ih => exact ih
  | @chunk first tail rest failure some _ ih =>
    have more : first.isEmpty = false := List.isEmpty_eq_false_iff.mpr some
    rw [readAll, more, ih]
    cases failure <;> rfl

/-- Whatever a source does, it gives some bytes and then ends or fails. -/
theorem exists_gives (source : Source) : ∃ bytes failure, source.Gives bytes failure := by
  induction source with
  | finished => exact ⟨[], none, .finished⟩
  | failing error => exact ⟨[], some error, .failing error⟩
  | interrupted rest ih =>
    obtain ⟨bytes, failure, gives⟩ := ih
    exact ⟨bytes, failure, .interrupted gives⟩
  | chunk first rest ih =>
    obtain ⟨tail, failure, gives⟩ := ih
    by_cases none : first = []
    · subst none
      exact ⟨[], _, .empty rest⟩
    · exact ⟨first ++ tail, failure, .chunk none gives⟩

end Source

namespace Memory

/-- Whether a memory is another one with a program laid over it at the program start. -/
structure Holds (before after : Memory) (program : List UInt8) : Prop where
  programStart : after.programStart = before.programStart
  fontStart : after.fontStart = before.fontStart
  byte (k : Nat) : after.bytes[k]? =
    if before.programStart.val ≤ k ∧ k < before.programStart.val + program.length then
      program[k - before.programStart.val]?
    else before.bytes[k]?

theorem holds_of_few {memory : Memory} {program : List UInt8}
    (few : program.length ≤ 4096 - memory.programStart.val) :
    ∃ loaded, memory.load program = .ok loaded ∧ memory.Holds loaded program := by
  have start := memory.programStart.isLt
  refine ⟨_, load_of_few few, rfl, rfl, ?_⟩
  intro k
  by_cases inside : k < memorySize
  · exact getElem?_overlay memory.bytes _ program k inside
  · have outside : ¬ (memory.programStart.val ≤ k ∧
        k < memory.programStart.val + program.length) := by
      simp only [memorySize] at *
      omega
    rw [if_neg outside]
    exact getElem?_overlay_outside memory.bytes _ program outside

end Memory

namespace Machine

variable {δ κ τ : Type}

/-- What becomes of a machine when it is given a program. One that fits is laid down where programs
start, and all else is as it was; one that does not fit is refused for that cause and no other, and
nothing has changed. In which reads it arrives makes no difference, and a source that fails has
changed nothing, whatever it gave before. -/
structure LoadsWhole (m : Machine δ κ τ) (program : List UInt8) : Prop where
  fits (few : program.length ≤ 4096 - m.memory.programStart.val) : ∃ loaded,
    m.memory.load program = .ok loaded ∧ m.memory.Holds loaded program ∧
      m.load program = .done () (({ m with memory := loaded } : Machine δ κ τ).note
        (.programLoaded program.length m.memory.programStart.val))
  refused (many : 4096 - m.memory.programStart.val < program.length) :
    let cause := Fault.programTooLarge program.length (4096 - m.memory.programStart.val)
    m.memory.load program = .error cause ∧ m.load program = .failed cause m
  inside (addr len : Nat) : m.memory.load program ≠ .error (.memoryOutOfBounds addr len)
  arrives {source : Source} (gives : source.Gives program none) :
    m.memory.loadFrom source = m.memory.load program ∧ m.loadFrom source = m.load program
  broken {source : Source} {error : DeviceError} (gives : source.Gives program (some error)) :
    m.memory.loadFrom source = .error (.device error) ∧
      m.loadFrom source = .failed (.device error) m

/-- Every machine, in whatever mode and with its programs starting anywhere, loads a program as a
whole or not at all, from whatever source. -/
theorem loads_whole (δ κ τ : Type) :
    (∀ source : Source, ∃ bytes failure, source.Gives bytes failure) ∧
      ∀ (m : Machine δ κ τ) (program : List UInt8), m.LoadsWhole program := by
  refine ⟨Source.exists_gives, ?_⟩
  intro m program
  exact {
    fits few := by
      obtain ⟨loaded, load, holds⟩ := Memory.holds_of_few few
      refine ⟨loaded, load, holds, ?_⟩
      rw [Machine.load, load, ← holds.programStart]
      rfl
    refused many := by
      have refused : m.memory.load program = .error _ :=
        Memory.load_of_many (Nat.not_le_of_lt many)
      refine ⟨refused, ?_⟩
      rw [Machine.load, refused]
      rfl
    inside addr len := by
      by_cases few : program.length ≤ m.memory.capacity
      · rw [Memory.load_of_few few]
        exact nofun
      · rw [Memory.load_of_many few]
        exact nofun
    arrives {source} gives := by
      have read : source.readAll = .ok program := Source.readAll_of_gives gives
      exact ⟨by rw [Memory.loadFrom, read], by rw [Machine.loadFrom, read]⟩
    broken {source error} gives := by
      have read : source.readAll = .error error := Source.readAll_of_gives gives
      exact ⟨by rw [Memory.loadFrom, read], by rw [Machine.loadFrom, read]⟩ }

end Machine

end Chip8
