import Chip8.Journal.Filter

namespace Chip8

/-- The events kept so far, the latest first. -/
structure Journal where
  filter : Filter
  kept : List Event := []
  deriving Repr

namespace Journal

def silent : Journal := ⟨Filter.silent, []⟩

/-- Adds an event, if the filter keeps it. -/
def record (journal : Journal) (event : Event) : Journal :=
  if journal.filter.keeps event then { journal with kept := event :: journal.kept } else journal

def recordAll (journal : Journal) (events : List Event) : Journal := events.foldl record journal

/-- The lines of the journal, the earliest first. -/
def lines (journal : Journal) : List String := journal.kept.reverse.map Event.line

end Journal

end Chip8
