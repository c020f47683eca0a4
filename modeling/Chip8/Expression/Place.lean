namespace Chip8.Expression

/-- A place between two characters. Lines and columns count from one. -/
structure Place where
  index : Nat := 0
  line : Nat := 1
  column : Nat := 1
  deriving DecidableEq, Repr

def Place.after (place : Place) (c : Char) : Place :=
  if c = '\n' then ⟨place.index + 1, place.line + 1, 1⟩
  else ⟨place.index + 1, place.line, place.column + 1⟩

/-- What stands between two places. -/
structure Span where
  start : Place
  stop : Place
  deriving DecidableEq, Repr

namespace Span

def empty (place : Place) : Span := ⟨place, place⟩

def ofChar (place : Place) (c : Char) : Span := ⟨place, place.after c⟩

def isOneLine (span : Span) : Bool := span.start.line == span.stop.line

/-- Number of columns that a stretch of one line takes. -/
def width (span : Span) : Nat := span.stop.column - span.start.column

/-- Whether one stretch comes before another: it starts earlier, or there too and stops earlier. -/
def precedes (first second : Span) : Bool :=
  first.start.index < second.start.index ||
    (first.start.index == second.start.index && first.stop.index ≤ second.stop.index)

end Span

end Chip8.Expression
