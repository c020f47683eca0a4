import Chip8.Expression.ClassMeaning
import Chip8.Pattern.Normal

namespace Chip8.Expression

/-- What is read of an expression changes the modes for what follows, or is a mistake. -/
abbrev Interpreting := StateT Modes (Except Mistake)

def Assertion.meaning (modes : Modes) : Assertion → Pattern
  | caret =>
    .anchor (if !modes.multiLine then .textStart
      else if modes.mixedLineEnds then .mixedLineStart else .lineStart) false
  | dollar =>
    .anchor (if !modes.multiLine then .textEnd
      else if modes.mixedLineEnds then .mixedLineEnd else .lineEnd) false
  | fixed anchor => .anchor anchor (modes.allScripts && anchor.asksForWords)

def Literal.meaning (modes : Modes) (literal : Literal) : Except Mistake Pattern :=
  if modes.allScripts then
    if modes.ignoreCase then .error ⟨.caseOfAllScripts, literal.span⟩
    else .ok (.literal [literal.value])
  else if literal.isByte && 127 < literal.value.toNat then .error ⟨.invalidText, literal.span⟩
  else if modes.ignoreCase && literal.value.isAlpha then
    .ok (.ofSet (.anyCase (.single literal.value)) true)
  else .ok (.literal [literal.value])

def Modes.dotSet (modes : Modes) : CharSet :=
  if modes.dotAll then .any
  else if modes.mixedLineEnds then .compl (.ofList ['\n', '\r'])
  else .compl (.single '\n')

def dotMeaning (modes : Modes) (span : Span) : Except Mistake Pattern :=
  if modes.allScripts then .ok (.ofSet modes.dotSet false) else .error ⟨.invalidText, span⟩

/-- The pattern for one character of a set. Where ASCII alone is meant it is a set of bytes. -/
def Modes.ofSet (modes : Modes) (set : CharSet) : Pattern := .ofSet set !modes.allScripts

mutual

/-- What an expression means. -/
def meaning : Expression → Interpreting Pattern
  | empty _ => return .empty
  | modes _ changes => do
    modify fun modes => modes.changed changes
    return .empty
  | literal written => do written.meaning (← get)
  | dot span => do dotMeaning (← get) span
  | assertion _ condition => return condition.meaning (← get)
  | shorthand span kind negated => do
    let modes ← get
    return modes.ofSet (← kind.set modes span negated)
  | property span isCategory => do
    let modes ← get
    return modes.ofSet (← propertySet modes span isCategory)
  | bracketed span negated set => do
    let modes ← get
    return modes.ofSet (← settledSet modes span set.isOpen negated (← set.meaning modes))
  | repetition _ low high isLazy body => do
    let body ← body.meaning
    return .times low high (isLazy == (← get).swapGreed) body
  | group _ changes number body => do
    let outside ← get
    set (outside.changed changes)
    let inside ← body.meaning
    set outside
    return match number with
      | some number => .group number inside
      | none => inside
  | concat _ items => return .inRow (← meanings items)
  | alternation _ branches => return .anyOf (← meanings branches)

def meanings : List Expression → Interpreting (List Pattern)
  | [] => return []
  | first :: rest => do
    let first ← first.meaning
    return first :: (← meanings rest)

end

end Chip8.Expression
