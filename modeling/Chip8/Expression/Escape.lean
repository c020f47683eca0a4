import Chip8.Expression
import Chip8.Expression.Cursor
import Chip8.Hex

namespace Chip8.Expression

def charOfCode? (code : Nat) : Option Char :=
  if code < 0xd800 ∨ (0xdfff < code ∧ code < 0x110000) then some (Char.ofNat code) else none

def hexValue (digits : List Char) : Nat :=
  digits.foldl (fun value c => 16 * value + (Hex.digit? c).getD 0) 0

/-- Reads exactly `count` hexadecimal digits after those that make up `value`. -/
def readHexDigits : (count value : Nat) → Reading Nat
  | 0, value => return value
  | count + 1, value => do
    match Hex.digit? (← requiredHere .escapeUnfinished) with
    | none => fail .escapeHexInvalidDigit (← nextSpan)
    | some digit =>
      advanceOverBlanks
      readHexDigits count (16 * value + digit)

def readBracedCode : Reading Char := do
  let brace ← here
  let start := (← nextSpan).stop
  advanceOverBlanks
  let digits ← gather (fun c => (Hex.digit? c).isSome) advanceOverBlanks
  if (← required .escapeUnfinished brace) ≠ '}' then fail .escapeHexInvalidDigit (← nextSpan)
  let stop ← here
  advanceOverBlanks
  if digits.isEmpty then fail .escapeHexEmpty ⟨brace, ← here⟩
  match charOfCode? (hexValue digits) with
  | some c => return c
  | none => fail .escapeHexInvalid ⟨start, stop⟩

/-- Reads a code point of `count` digits, or one between braces, after the letter that announces
it. Two digits give a byte. -/
def readCode (escape : Place) (count : Nat) : Reading Expression := do
  advanceOverBlanks
  if (← requiredHere .escapeUnfinished) = '{' then
    let value ← readBracedCode
    return .literal { span := ⟨escape, ← here⟩, value }
  else
    let start ← here
    let code ← readHexDigits count 0
    match charOfCode? code with
    | some value => return .literal { span := ⟨escape, ← here⟩, value, isByte := count == 2 }
    | none => fail .escapeHexInvalid ⟨start, ← here⟩

/-- The name of a property in the form in which names are compared: lower-case letters without
blanks, underscores, hyphens and a leading `is`. -/
def propertyKey (name : List Char) : List Char :=
  let bare := match name with
    | a :: b :: rest => if [a.toLower, b.toLower] = ['i', 's'] then rest else name
    | _ => name
  (bare.filter fun c => c.toNat < 128 && c ∉ [' ', '_', '-']).map Char.toLower

/-- Whether a name is that of a general category although it abbreviates a property too. -/
def isCategoryName (name : List Char) : Bool :=
  propertyKey name ∈ ["cf".toList, "sc".toList, "lc".toList]

/-- Reads the name of a property after the letter that announces it. -/
def readProperty (escape : Place) : Reading Expression := do
  advanceOverBlanks
  let c ← requiredHere .escapeUnfinished
  if c = '{' then
    advanceOverBlanks
    let name ← gather (· ≠ '}') advanceOverBlanks
    let _ ← requiredHere .escapeUnfinished
    advance
    return .property ⟨escape, ← here⟩ (isCategoryName name)
  else if c = '\\' then fail .propertyInvalid (← nextSpan)
  else
    advanceOverBlanks
    return .property ⟨escape, ← here⟩ false

/-- Whether a character can stand in the name of a word boundary. -/
def isBoundaryLetter (c : Char) : Bool := c.isAlpha || c == '-'

def boundaryNames : List (List Char × Anchor) :=
  [("start".toList, .wordStart), ("end".toList, .wordEnd),
    ("start-half".toList, .wordStartHalf), ("end-half".toList, .wordEndHalf)]

/-- Reads the name of a word boundary between braces. If something else stands there, the brace
starts a repetition and is left alone. -/
def readBoundaryName (escape : Place) : Reading (Option Anchor) := do
  let before ← get
  advanceOverBlanks
  let contents ← here
  if !isBoundaryLetter (← required .wordBoundaryUnfinished escape) then
    set before
    return none
  let name ← gather isBoundaryLetter advanceOverBlanks
  if (← required .wordBoundaryUnclosed before.place) ≠ '}' then
    fail .wordBoundaryUnclosed ⟨before.place, ← here⟩
  let stop ← here
  advance
  match boundaryNames.lookup name with
  | some anchor => return some anchor
  | none => fail .wordBoundaryUnrecognized ⟨contents, stop⟩

/-- The classes of one letter; an upper-case letter means all other characters. -/
def shorthands : List (Char × Shorthand) := [('d', .digit), ('s', .space), ('w', .word)]

def controls : List (Char × Char) :=
  [('a', '\x07'), ('f', '\x0c'), ('t', '\t'), ('n', '\n'), ('r', '\r'), ('v', '\x0b')]

def anchors : List (Char × Anchor) :=
  [('A', .textStart), ('z', .textEnd), ('B', .noWordEdge), ('<', .wordStart), ('>', .wordEnd)]

/-- The number of digits of a code point after the letter that announces it. -/
def codeLengths : List (Char × Nat) := [('x', 2), ('u', 4), ('U', 8)]

/-- Whether a character stands for itself after a backslash: the ASCII characters that are neither
letters nor digits nor angle brackets. -/
def isEscapable (c : Char) : Bool :=
  c.toNat < 128 && !c.isAlphanum && c != '<' && c != '>'

/-- What a letter or sign means that needs nothing more. -/
def plainEscape (span : Span) (c : Char) : Reading Expression :=
  if isEscapable c then return .literal { span, value := c }
  else match controls.lookup c, anchors.lookup c with
    | some value, _ => return .literal { span, value }
    | none, some anchor => return .assertion span (.fixed anchor)
    | none, none => fail .escapeUnrecognized span

def readEscape : Reading Expression := do
  let escape ← here
  advance
  let c ← required .escapeUnfinished escape
  if c.isDigit then fail .backreference ⟨escape, (← nextSpan).stop⟩
  match codeLengths.lookup c with
  | some count => readCode escape count
  | none =>
    if c = 'p' ∨ c = 'P' then readProperty escape
    else
      advance
      let span : Span := ⟨escape, ← here⟩
      match shorthands.lookup c.toLower with
      | some kind => return .shorthand span kind c.isUpper
      | none =>
        if c = 'b' then
          if (← next?) = some '{' then
            match ← readBoundaryName escape with
            | some anchor => return .assertion ⟨escape, ← here⟩ (.fixed anchor)
            | none => return .assertion span (.fixed .wordEdge)
          else return .assertion span (.fixed .wordEdge)
        else plainEscape span c

end Chip8.Expression
