import Chip8.Pattern

/-!
Building patterns in a normal form.

Rows and choices have at least two members and are not nested in themselves; neighbouring literals
of a row are one; a choice between characters or between sets is a set; what all rows of a choice
start with stands before the choice. A repetition passes more than once or not at least once, and
more than once only if a pass can move on.
-/
namespace Chip8.Pattern

def nothing : Pattern := one .none true

def ofSet (set : CharSet) (ofBytes : Bool) : Pattern :=
  if set.ranges.isEmpty then nothing
  else match set.single? with
    | some c => literal [c]
    | none => one set ofBytes

def times (low : Nat) (high : Option Nat) (greedy : Bool) (body : Pattern) : Pattern :=
  let moves := body.mostBytes? != some 0
  let low := if moves then low else min low 1
  let high := if moves then high else some ((high.map (min 1)).getD 1)
  if high = some 0 then empty
  else if low = 1 ∧ high = some 1 then body
  else repeated low high greedy body

def items : Pattern → List Pattern
  | empty => []
  | row items => items
  | pattern => [pattern]

/-- Puts an item before others; two literals in a row are one. -/
def cons : Pattern → List Pattern → List Pattern
  | literal first, literal second :: rest => literal (first ++ second) :: rest
  | item, rest => item :: rest

def inRow (patterns : List Pattern) : Pattern :=
  match (patterns.flatMap items).foldr cons [] with
  | [] => empty
  | [item] => item
  | items => row items

def branches : Pattern → List Pattern
  | choice branches => branches
  | pattern => [pattern]

/-- The character that a pattern consists of. -/
def character? : Pattern → Option Char
  | literal [c] => some c
  | _ => none

/-- The set that a pattern consists of. -/
def set? : Pattern → Option CharSet
  | one set _ => some set
  | _ => none

/-- The items of a row. -/
def rowItems? : Pattern → Option (List Pattern)
  | row items => some items
  | _ => none

/-- The items with which two rows start alike. -/
def sharedStart : List Pattern → List Pattern → List Pattern
  | first :: rest, first' :: rest' =>
    if first.sameAs first' then first :: sharedStart rest rest' else []
  | _, _ => []

/-- The items with which all of some rows start. -/
def sharedStartOfAll : List (List Pattern) → List Pattern
  | [] => []
  | first :: rest => rest.foldl sharedStart first

/-- Any of some patterns. What rows share is taken out up to `limit` times. -/
def ofBranches : (limit : Nat) → List Pattern → Pattern
  | 0, patterns => choice patterns
  | limit + 1, patterns =>
    match patterns.flatMap branches with
    | [] => nothing
    | [branch] => branch
    | branches =>
      match branches.mapM character?, branches.mapM set?, branches.mapM rowItems? with
      | some characters, _, _ => ofSet (.ofList characters) false
      | none, some sets, _ => ofSet (sets.foldl CharSet.union .none) false
      | none, none, some rows =>
        let shared := sharedStartOfAll rows
        if shared.isEmpty then choice branches
        else
          let rests := rows.map fun items => inRow (items.drop shared.length)
          inRow (shared ++ [ofBranches limit rests])
      | none, none, none => choice branches

/-- Any of some patterns. Taking out what rows share leaves fewer parts, so there is an end to
it. -/
def anyOf (patterns : List Pattern) : Pattern := ofBranches (partCountAll patterns + 1) patterns

end Chip8.Pattern
