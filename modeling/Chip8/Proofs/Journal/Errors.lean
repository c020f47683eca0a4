import Chip8.Journal
import Chip8.Journal.Filter.Reader

namespace Chip8

def Event.isMinor (event : Event) : Bool := event.level != .error

/-- A filter that keeps the errors and nothing else. -/
def Filter.ErrorsOnly (filter : Filter) : Prop :=
  ∀ event, filter.keeps event = decide (event.level = .error)

namespace Filter

theorem errorsOnly_usual : ErrorsOnly ⟨[⟨none, Level.error.rank⟩], none⟩ := by
  intro event
  have rank : decide (event.level.rank ≤ 1) = decide (event.level = .error) := by
    cases event.level <;> rfl
  exact (Bool.and_true _).trans rank

/-- The filter written as the word for errors passes nothing over and keeps the errors alone. -/
theorem read_error : read "error" = (⟨[⟨none, Level.error.rank⟩], none⟩, []) := by rfl

end Filter

namespace Journal

variable {journal : Journal}

theorem record_of_minor (errors : journal.filter.ErrorsOnly) {event : Event}
    (minor : event.isMinor) : journal.record event = journal := by
  have dropped : journal.filter.keeps event = false := by
    rw [errors event]
    exact decide_eq_false (bne_iff_ne.mp minor)
  simp only [record, dropped, Bool.false_eq_true, if_false]

theorem recordAll_of_minor (errors : journal.filter.ErrorsOnly) {events : List Event}
    (minor : ∀ event ∈ events, event.isMinor) : journal.recordAll events = journal := by
  induction events with
  | nil => rfl
  | cons event rest ih =>
    have dropped := record_of_minor errors (minor event List.mem_cons_self)
    simp only [recordAll, List.foldl_cons, dropped]
    exact ih fun other member => minor other (List.mem_cons_of_mem event member)

theorem record_of_error (errors : journal.filter.ErrorsOnly) {event : Event}
    (grave : event.level = .error) :
    journal.record event = { journal with kept := event :: journal.kept } := by
  have kept : journal.filter.keeps event = true := by
    rw [errors event]
    exact decide_eq_true grave
  simp only [record, kept, if_true]

end Journal

/-- The line for a machine that halts. -/
theorem Event.line_halting (pc : UInt16) (fault : Fault) :
    (halting pc fault).line =
      "[ERROR chip8::interpreter] halting at pc " ++ addressText pc.toNat ++ ": " ++
        fault.message := by
  have start : "[" ++ Level.error.name ++
      String.ofList (List.replicate (5 - Level.error.name.length) ' ') ++ " " ++
      Reporter.interpreter.name ++ "] " ++ "halting at pc " =
        "[ERROR chip8::interpreter] halting at pc " := by decide +kernel
  have words : (halting pc fault).message =
      "halting at pc " ++ addressText pc.toNat ++ ": " ++ fault.message := rfl
  rw [← start, line, words]
  simp only [← String.append_assoc]
  rfl

end Chip8
