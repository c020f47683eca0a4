import Chip8.Expression.Place
import Chip8.Pattern

/-!
Expressions: how patterns are written.

An expression keeps where its parts stand, so that what is wrong with their meaning can be pointed
at. What an expression means depends on modes that it can switch on and off on the way.
-/
namespace Chip8

namespace Expression

/-- What a part of an expression can switch on or off. -/
inductive Mode where
  | ignoreCase
  | multiLine
  | dotAll
  -- Repetitions prefer few passes; this does not change where a pattern occurs.
  | swapGreed
  | allScripts
  | mixedLineEnds
  | spaced
  deriving DecidableEq, Repr

structure Literal where
  span : Span
  value : Char
  isByte : Bool := false
  deriving DecidableEq, Repr

/-- The classes with an escape of one letter. -/
inductive Shorthand where
  | digit | space | word
  deriving DecidableEq, Repr

inductive ClassName where
  | alnum | alpha | ascii | blank | cntrl | digit | graph | lower | print | punct | space | upper
  | word | xdigit
  deriving DecidableEq, Repr

inductive SetOperator where
  | intersection | difference | symmetricDifference
  deriving DecidableEq, Repr

/-- What stands between brackets. -/
inductive ClassSet where
  | nothing (span : Span)
  | literal (literal : Literal)
  | range (span : Span) (low high : Literal)
  | named (span : Span) (name : ClassName) (negated : Bool)
  | shorthand (span : Span) (kind : Shorthand) (negated : Bool)
  -- The characters with a property. Of its name only what decides about errors is kept.
  | property (span : Span) (isCategory : Bool)
  | bracketed (span : Span) (negated : Bool) (set : ClassSet)
  | union (span : Span) (items : List ClassSet)
  | operation (span : Span) (operator : SetOperator) (left right : ClassSet)

def ClassSet.span : ClassSet → Span
  | nothing span | range span _ _ | named span _ _ | shorthand span _ _ | property span _
  | bracketed span _ _ | union span _ | operation span _ _ _ => span
  | literal written => written.span

inductive Assertion where
  | caret
  | dollar
  | fixed (anchor : Anchor)
  deriving DecidableEq, Repr

end Expression

open Expression in
inductive Expression where
  | empty (span : Span)
  | modes (span : Span) (changes : List (Mode × Bool))
  | literal (literal : Literal)
  | dot (span : Span)
  | assertion (span : Span) (assertion : Assertion)
  | shorthand (span : Span) (kind : Shorthand) (negated : Bool)
  -- The characters with a property. Of its name only what decides about errors is kept.
  | property (span : Span) (isCategory : Bool)
  | bracketed (span : Span) (negated : Bool) (set : ClassSet)
  -- At least `low` times in a row, and at most `high` times if there is such a bound. A lazy
  -- repetition has the mark of one that prefers few passes.
  | repetition (span : Span) (low : Nat) (high : Option Nat) (isLazy : Bool) (body : Expression)
  | group (span : Span) (changes : List (Mode × Bool)) (number : Option Nat) (body : Expression)
  | concat (span : Span) (items : List Expression)
  | alternation (span : Span) (branches : List Expression)

namespace Expression

def span : Expression → Span
  | empty span | modes span _ | dot span | assertion span _ | shorthand span _ _
  | property span _ | bracketed span _ _ | repetition span _ _ _ _ | group span _ _ _
  | concat span _ | alternation span _ => span
  | literal written => written.span

/-- The expressions in a row; a single one stands for itself. -/
def ofItems (span : Span) : List Expression → Expression
  | [] => empty span
  | [item] => item
  | items => concat span items

end Expression

end Chip8
