namespace Chip8

/-- A condition on the two characters next to a place; there is none at an end of the text. -/
inductive Anchor where
  | textStart | textEnd
  | lineStart
  | lineEnd
  -- Like `lineStart`, where a carriage return, a line feed and both in a row end a line.
  | mixedLineStart
  | mixedLineEnd
  | wordEdge | noWordEdge | wordStart | wordEnd
  | wordStartHalf
  | wordEndHalf
  deriving DecidableEq, Repr

namespace Anchor

/-- Whether a character is an ASCII letter, an ASCII digit or an underscore. -/
def isWord : Option Char → Bool
  | some c => c.isAlphanum || c == '_'
  | none => false

def holds (before after : Option Char) : Anchor → Bool
  | textStart => before.isNone
  | textEnd => after.isNone
  | lineStart => before.isNone || before == some '\n'
  | lineEnd => after.isNone || after == some '\n'
  | mixedLineStart =>
    before.isNone || before == some '\n' || (before == some '\r' && after != some '\n')
  | mixedLineEnd =>
    after.isNone || after == some '\r' || (after == some '\n' && before != some '\r')
  | wordEdge => isWord before != isWord after
  | noWordEdge => isWord before == isWord after
  | wordStart => !isWord before && isWord after
  | wordEnd => isWord before && !isWord after
  | wordStartHalf => !isWord before
  | wordEndHalf => !isWord after

/-- Whether a condition asks which characters make up words. -/
def asksForWords : Anchor → Bool
  | wordEdge | noWordEdge | wordStart | wordEnd | wordStartHalf | wordEndHalf => true
  | _ => false

end Anchor

end Chip8
