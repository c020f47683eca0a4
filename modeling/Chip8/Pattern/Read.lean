import Chip8.Expression.Meaning
import Chip8.Expression.Reader
import Chip8.Pattern.Size

namespace Chip8.Pattern

/-- Why a text is no pattern that can be searched for. -/
inductive Refusal where
  | mistaken (mistake : Expression.Mistake) (expression : List Char)
  | tooLarge
  | needsScripts
  deriving DecidableEq, Repr

def Refusal.message : Refusal → String
  | mistaken mistake expression => mistake.report expression
  | tooLarge => s!"Compiled regex exceeds size limit of {maxBytes} bytes."
  | needsScripts => "error building NFA"

/-- Why a pattern cannot be searched for. The automaton that reads forward is made first. -/
def refusal? (pattern : Pattern) : Option Refusal :=
  if pattern.isTooLarge false then some .tooLarge
  else if pattern.needsScripts then some .needsScripts
  else if pattern.isTooLarge true then some .tooLarge
  else none

def read (text : List Char) : Except Refusal Pattern :=
  match Expression.read text >>= fun expression => expression.meaning.run {} with
  | .error mistake => .error (.mistaken mistake text)
  | .ok (pattern, _) =>
    match pattern.refusal? with
    | some refusal => .error refusal
    | none => .ok pattern

end Chip8.Pattern
