import Chip8.Expression.Mistake
import Chip8.Text.Blank

namespace Chip8.Expression

/-- How far the reading has come. -/
structure Cursor where
  rest : List Char
  place : Place := {}
  spaced : Bool := false
  names : List (List Char × Span) := []
  groups : Nat := 0
  deriving DecidableEq, Repr

namespace Cursor

def advance (cursor : Cursor) : Cursor :=
  match cursor.rest with
  | [] => cursor
  | c :: rest => { cursor with rest, place := cursor.place.after c }

/-- What is left of a text after blanks and comments, and where that starts. -/
def afterBlanks (inComment : Bool) (place : Place) : List Char → List Char × Place
  | [] => ([], place)
  | c :: rest =>
    if inComment then afterBlanks (c != '\n') (place.after c) rest
    else if c = '#' then afterBlanks true (place.after c) rest
    else if Text.isBlank c then afterBlanks false (place.after c) rest
    else (c :: rest, place)

/-- Passes blanks and comments where they stand for nothing. -/
def passBlanks (cursor : Cursor) : Cursor :=
  if cursor.spaced then
    let (rest, place) := afterBlanks false cursor.place cursor.rest
    { cursor with rest, place }
  else cursor

/-- The character that follows the next one. Where blanks stand for nothing they are passed over,
and so is one number sign; if nothing else is left, the first blank counts after all. -/
def second? (cursor : Cursor) : Option Char :=
  let rest := cursor.rest.drop 1
  if cursor.spaced then
    let solid := match rest.dropWhile Text.isBlank with
      | '#' :: others => others.dropWhile Text.isBlank
      | others => others
    solid.head?.or rest.head?
  else rest.head?

end Cursor

/-- A step of the reader: it moves on or finds a mistake. -/
abbrev Reading := StateT Cursor (Except Mistake)

def fail {α : Type} (flaw : Flaw) (span : Span) : Reading α := throw ⟨flaw, span⟩

def here : Reading Place := return (← get).place

def next? : Reading (Option Char) := return (← get).rest.head?

def nextSpan : Reading Span := do
  match ← next? with
  | some c => return .ofChar (← here) c
  | none => return .empty (← here)

def advance : Reading Unit := modify Cursor.advance

/-- Passes blanks and comments where they stand for nothing. -/
def passBlanks : Reading Unit := modify Cursor.passBlanks

/-- Passes one character and the blanks after it. -/
def advanceOverBlanks : Reading Unit := do
  advance
  passBlanks

def advanceBy (count : Nat) : Reading Unit := modify (Nat.repeat Cursor.advance count)

/-- The next character; at the end of the text a mistake in what began at `start`. -/
def required (flaw : Flaw) (start : Place) : Reading Char := do
  match ← next? with
  | some c => return c
  | none => fail flaw ⟨start, ← here⟩

/-- The next character; at the end of the text a mistake in that place. -/
def requiredHere (flaw : Flaw) : Reading Char := do required flaw (← here)

/-- Passes a text, if it comes next, and says whether it did. -/
def passed (text : String) : Reading Bool := do
  if text.toList.isPrefixOf (← get).rest then
    advanceBy text.length
    return true
  else return false

/-- Passes characters of a kind, at most as many as `limit` has; `step` passes one. -/
def gatherUpTo (accepts : Char → Bool) (step : Reading Unit) :
    (limit : List Char) → Reading (List Char)
  | [] => return []
  | _ :: limit => do
    match ← next? with
    | some c =>
      if accepts c then
        step
        return c :: (← gatherUpTo accepts step limit)
      else return []
    | none => return []

/-- Passes all characters of a kind that come next. -/
def gather (accepts : Char → Bool) (step : Reading Unit) : Reading (List Char) := do
  gatherUpTo accepts step (← get).rest

end Chip8.Expression
