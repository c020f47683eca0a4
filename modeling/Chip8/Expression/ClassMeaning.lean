import Chip8.Expression
import Chip8.Expression.Mistake

/-!
What classes of characters mean.

There are no tables of the letters and digits of all scripts. So where characters of all scripts are
meant, a class of one letter and a disregard of case are mistakes; where ASCII alone is meant, the
mistake is to go beyond it.
-/
namespace Chip8.Expression

structure Modes where
  ignoreCase : Bool := false
  multiLine : Bool := false
  dotAll : Bool := false
  swapGreed : Bool := false
  allScripts : Bool := true
  mixedLineEnds : Bool := false
  deriving DecidableEq, Repr

namespace Modes

/-- Switches one mode on or off, if it bears on the meaning. -/
def switched (modes : Modes) : Mode × Bool → Modes
  | (.ignoreCase, on) => { modes with ignoreCase := on }
  | (.multiLine, on) => { modes with multiLine := on }
  | (.dotAll, on) => { modes with dotAll := on }
  | (.swapGreed, on) => { modes with swapGreed := on }
  | (.allScripts, on) => { modes with allScripts := on }
  | (.mixedLineEnds, on) => { modes with mixedLineEnds := on }
  | (.spaced, _) => modes

def changed (modes : Modes) (changes : List (Mode × Bool)) : Modes := changes.foldl switched modes

end Modes

def ClassName.ranges : ClassName → List (Char × Char)
  | alnum => [('0', '9'), ('A', 'Z'), ('a', 'z')]
  | alpha => [('A', 'Z'), ('a', 'z')]
  | ascii => [('\x00', '\x7f')]
  | blank => [('\t', '\t'), (' ', ' ')]
  | cntrl => [('\x00', '\x1f'), ('\x7f', '\x7f')]
  | digit => [('0', '9')]
  | graph => [('!', '~')]
  | lower => [('a', 'z')]
  | print => [(' ', '~')]
  | punct => [('!', '/'), (':', '@'), ('[', '\x60'), ('\x7b', '~')]
  | space => [('\t', '\r'), (' ', ' ')]
  | upper => [('A', 'Z')]
  | word => [('0', '9'), ('A', 'Z'), ('_', '_'), ('a', 'z')]
  | xdigit => [('0', '9'), ('A', 'F'), ('a', 'f')]

def ClassName.set (name : ClassName) : CharSet :=
  .ofRanges (name.ranges.map fun (low, high) => ⟨low.toNat, high.toNat⟩)

/-- The named class with the same ASCII characters. -/
def Shorthand.className : Shorthand → ClassName
  | digit => .digit
  | space => .space
  | word => .word

/-- What a class means whose members, before case and negation count, are `set`. `isOpen` says
whether it has members of its own that may be letters. -/
def settledSet (modes : Modes) (span : Span) (isOpen negated : Bool) (set : CharSet) :
    Except Mistake CharSet :=
  if modes.allScripts then
    if modes.ignoreCase && isOpen then .error ⟨.caseOfAllScripts, span⟩
    else .ok (if negated then .compl set else set)
  else if negated then .error ⟨.invalidText, span⟩
  else .ok (if modes.ignoreCase then .anyCase set else set)

def Shorthand.set (modes : Modes) (span : Span) (negated : Bool) (kind : Shorthand) :
    Except Mistake CharSet :=
  if modes.allScripts then .error ⟨.classOfAllScripts, span⟩
  else if negated then .error ⟨.invalidText, span⟩
  else .ok kind.className.set

/-- What a property means: it is always a mistake. -/
def propertySet (modes : Modes) (span : Span) (isCategory : Bool) : Except Mistake CharSet :=
  if !modes.allScripts then .error ⟨.characterNotAllowed, span⟩
  else if isCategory then .error ⟨.propertyValueUnknown, span⟩
  else .error ⟨.propertyUnknown, span⟩

/-- The character that a literal in a class stands for. -/
def Literal.member (modes : Modes) (literal : Literal) : Except Mistake Char :=
  if modes.allScripts || literal.value.toNat < 128 then .ok literal.value
  else if literal.isByte then .error ⟨.invalidText, literal.span⟩
  else .error ⟨.characterNotAllowed, literal.span⟩

def SetOperator.apply : SetOperator → CharSet → CharSet → CharSet
  | intersection => .inter
  | difference => .diff
  | symmetricDifference => .symmDiff

namespace ClassSet

/-- Whether a member stands for itself or is in a range of such characters. -/
def isCharacter : ClassSet → Bool
  | literal _ | range .. => true
  | _ => false

/-- Whether a class has members of its own that may be letters; those of the classes in it are
settled there. -/
def isOpen : ClassSet → Bool
  | union _ items => items.any isCharacter
  | set => set.isCharacter

mutual

def meaning (modes : Modes) : ClassSet → Except Mistake CharSet
  | nothing _ => .ok .none
  | literal written => return .single (← written.member modes)
  | range _ low high => return .range (← low.member modes) (← high.member modes)
  | named span name negated => settledSet modes span true negated name.set
  | shorthand span kind negated => kind.set modes span negated
  | property span isCategory => propertySet modes span isCategory
  | bracketed span negated set => do
    let inner ← settledSet modes span set.isOpen negated (← set.meaning modes)
    return .ofRanges inner.ranges
  | union _ items => return .ofRanges (← unionRanges modes items)
  | operation _ operator left right => do
    let first ← left.meaning modes
    let second ← right.meaning modes
    let second ← settledSet modes right.span right.isOpen false second
    let first ← settledSet modes left.span left.isOpen false first
    return operator.apply first second

def unionRanges (modes : Modes) : List ClassSet → Except Mistake (List CharRange)
  | [] => .ok []
  | item :: rest => do
    let first ← item.meaning modes
    return first.ranges ++ (← unionRanges modes rest)

end

end ClassSet

end Chip8.Expression
