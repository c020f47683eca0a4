import Chip8.Journal.Event
import Chip8.Pattern.Search

/-!
The filter of the journal: which events are kept.

A directive governs the events of all reporters whose names begin with its scope, or those of every
reporter. The longest scope wins, and of equally long ones the last. What the governing directive
lets through is kept if its message shows the pattern, where there is one.
-/
namespace Chip8

/-- A rule for the reporters whose names begin with `scope`, or for all if there is none: keep
events up to `ceiling`, where zero keeps none. -/
structure Directive where
  scope : Option (List Char)
  ceiling : Nat
  deriving DecidableEq, Repr

namespace Directive

/-- Length of the scope. -/
def reach (directive : Directive) : Nat := directive.scope.elim 0 List.length

def covers (directive : Directive) (reporter : Reporter) : Bool :=
  directive.scope.elim true fun scope => scope.isPrefixOf reporter.name.toList

end Directive

structure Filter where
  directives : List Directive
  pattern : Option Pattern := none
  deriving Repr

namespace Filter

def silent : Filter := ⟨[], none⟩

/-- The directive for a reporter: the longest scope that fits, the last of equally long ones. -/
def governing? (filter : Filter) (reporter : Reporter) : Option Directive :=
  filter.directives.foldl (fun best directive =>
    if directive.covers reporter ∧ best.elim 0 Directive.reach ≤ directive.reach
    then some directive else best) none

def keeps (filter : Filter) (event : Event) : Bool :=
  match filter.governing? event.reporter with
  | none => false
  | some directive =>
    event.level.rank ≤ directive.ceiling &&
      filter.pattern.elim true fun pattern => pattern.occursIn event.message.toList

end Filter

end Chip8
