import Chip8.Expression.Brackets
import Chip8.Expression.Depth
import Chip8.Text.Digits
import Chip8.Text.Letter

namespace Chip8.Expression

def maxCount : Nat := 4294967295

/-- Reads a count with the blanks around it. What is wrong with it is left to the caller, because
a count without its closing brace is reported first. -/
def readCount : Reading (Except Mistake Nat) := do
  let _ ← gather Text.isBlank advance
  let start ← here
  let digits ← gather Char.isDigit advanceOverBlanks
  let span : Span := ⟨start, ← here⟩
  let _ ← gather Text.isBlank advanceOverBlanks
  if digits.isEmpty then return .error ⟨.repetitionCountMissing, span⟩
  else if maxCount < Text.natOfDigits digits then return .error ⟨.decimalInvalid, span⟩
  else return .ok (Text.natOfDigits digits)

/-- How often something is repeated: at least so often, and at most so often if there is a bound. -/
abbrev Counts := Nat × Option Nat

/-- Passes the mark of a repetition that prefers few passes and says whether it is there. -/
def passLazyMark : Reading Bool := passed "?"

/-- Reads the counts of a repetition between braces, and its mark. -/
def readCounts : Reading (Counts × Bool) := do
  let brace ← here
  advanceOverBlanks
  let _ ← required .repetitionCountUnclosed brace
  let low ← readCount
  let counts ← do
    if (← required .repetitionCountUnclosed brace) = ',' then
      advanceOverBlanks
      if (← required .repetitionCountUnclosed brace) = '}' then pure (← low, none)
      else
        let low ← low
        pure (low, some (← (← readCount)))
    else
      let count ← low
      pure (count, some count)
  if (← required .repetitionCountUnclosed brace) ≠ '}' then
    fail .repetitionCountUnclosed ⟨brace, ← here⟩
  advanceOverBlanks
  let isLazy ← passLazyMark
  if counts.2.any (· < counts.1) then fail .repetitionCountInvalid ⟨brace, ← here⟩
  return (counts, isLazy)

/-- Reads the sign of a repetition, and its mark. -/
def readSign (counts : Counts) : Reading (Counts × Bool) := do
  advance
  return (counts, ← passLazyMark)

def signCounts : List (Char × Counts) :=
  [('?', (0, some 1)), ('*', (0, none)), ('+', (1, none))]

def modeLetters : List (Char × Mode) :=
  [('i', .ignoreCase), ('m', .multiLine), ('s', .dotAll), ('U', .swapGreed), ('u', .allScripts),
    ('R', .mixedLineEnds), ('x', .spaced)]

/-- A letter of a mode, or the hyphen that negates the letters after it, with its stretch. -/
abbrev Flag := Option Mode × Span

/-- Reads the next flag; `found` holds those before it. -/
def readFlag (found : List Flag) (c : Char) : Reading Flag := do
  let span ← nextSpan
  if c = '-' then
    match found.lookup none with
    | some earlier => fail (.flagRepeatedNegation earlier) span
    | none => return (none, span)
  else match modeLetters.lookup c with
    | none => fail .flagUnrecognized span
    | some mode =>
      match found.lookup (some mode) with
      | some earlier => fail (.flagDuplicate earlier) span
      | none => return (some mode, span)

/-- Reads flags up to a colon or a closing parenthesis, which `limit`, the text to read, has to
hold. -/
def readFlagsUpTo : (limit : List Char) → (found : List Flag) → Reading (List Flag)
  | [], _ => do fail .flagUnfinished (← nextSpan)
  | _ :: limit, found => do
    let c ← requiredHere .flagUnfinished
    if c = ':' ∨ c = ')' then
      match found.getLast? with
      | some (none, span) => fail .flagDanglingNegation span
      | _ => return found
    else
      let flag ← readFlag found c
      advance
      readFlagsUpTo limit (found ++ [flag])

def changesOf : (on : Bool) → List Flag → List (Mode × Bool)
  | _, [] => []
  | _, (none, _) :: rest => changesOf false rest
  | on, (some mode, _) :: rest => (mode, on) :: changesOf on rest

/-- Whether a character can stand in the name of a group, as its first character or later. -/
def isNameLetter (isFirst : Bool) (c : Char) : Bool :=
  c == '_' || Text.isLetter c || (!isFirst && (c ∈ ['.', '[', ']'] || Text.isNumeral c))

/-- Reads the name of a group, up to the bracket that closes it, and keeps it. -/
def readGroupName : Reading Unit := do
  let start ← here
  if (← requiredHere .groupNameUnfinished) ≠ '>' ∧
      !(← next?).any (isNameLetter true) then
    fail .groupNameInvalid (← nextSpan)
  let name ← gather (isNameLetter false) advance
  if (← requiredHere .groupNameUnfinished) ≠ '>' then fail .groupNameInvalid (← nextSpan)
  let span : Span := ⟨start, ← here⟩
  advance
  if name.isEmpty then fail .groupNameEmpty (.empty start)
  let cursor ← get
  match cursor.names.lookup name with
  | some earlier => fail (.groupNameDuplicate earlier) span
  | none => set { cursor with names := (name, span) :: cursor.names }

/-- What an opening parenthesis introduces. -/
inductive Opened where
  | modes (changes : List (Mode × Bool))
  | group (changes : List (Mode × Bool)) (number : Option Nat)

/-- The marks of conditions on what stands before or after a place. -/
def lookAroundMarks : List String := ["?=", "?!", "?<=", "?<!"]

/-- Numbers a group whose text is kept apart. -/
def openNumbered : Reading Opened := do
  modify fun cursor => { cursor with groups := cursor.groups + 1 }
  return .group [] (some (← get).groups)

/-- Reads what the parenthesis at `opened`, which has been passed, introduces. -/
def readOpened (opened : Span) : Reading Opened := do
  for mark in lookAroundMarks do
    if ← passed mark then fail .lookAround ⟨opened.start, ← here⟩
  let mark ← here
  if ← passed "?P<" then
    readGroupName
    openNumbered
  else if ← passed "?<" then
    readGroupName
    openNumbered
  else if ← passed "?" then
    if (← next?).isNone then fail .groupUnclosed opened
    let flags ← readFlagsUpTo (← get).rest []
    let isGroup := (← next?) = some ':'
    advance
    if isGroup then return .group (changesOf true flags) none
    if flags.isEmpty then fail .repetitionMissing (.empty mark)
    return .modes (changesOf true flags)
  else openNumbered

/-- What has been read of a group. -/
structure Content where
  start : Place
  -- The finished branches, the latest first.
  branches : List Expression := []
  branchStart : Place := start
  -- The items of the current branch, the latest first.
  items : List Expression := []

namespace Content

def branch (content : Content) (stop : Place) : Expression :=
  ofItems ⟨content.branchStart, stop⟩ content.items.reverse

/-- The whole content, if it ends at a place. -/
def finished (content : Content) (stop : Place) : Expression :=
  if content.branches.isEmpty then content.branch stop
  else .alternation ⟨content.start, stop⟩ (content.branch stop :: content.branches).reverse

/-- Ends the current branch at one place and starts the next at another. -/
def nextBranch (content : Content) (stop start : Place) : Content :=
  { content with branches := content.branch stop :: content.branches,
                 branchStart := start, items := [] }

def push (content : Content) (item : Expression) : Content :=
  { content with items := item :: content.items }

end Content

/-- Repeats the latest item as `readCounts` says. -/
def repeatLatest (content : Content) (readCounts : Reading (Counts × Bool)) :
    Reading Content := do
  match content.items with
  | [] | .modes .. :: _ => fail .repetitionMissing (.empty (← here))
  | item :: rest =>
    let ((low, high), isLazy) ← readCounts
    let item := .repetition ⟨item.span.start, ← here⟩ low high isLazy item
    return { content with items := item :: rest }

/-- Reads an item that is neither a group nor a repetition. -/
def readItem (c : Char) : Reading Expression := do
  if c = '[' then readBrackets
  else if c = '\\' then readEscape
  else
    let span ← nextSpan
    advance
    if c = '.' then return .dot span
    else if c = '^' then return .assertion span .caret
    else if c = '$' then return .assertion span .dollar
    else return .literal { span, value := c }

/-- Switches the reader's own mode as some changes say. -/
def switchSpaced (changes : List (Mode × Bool)) : Reading Unit := do
  match changes.lookup .spaced with
  | some spaced => modify fun cursor => { cursor with spaced }
  | none => return

/-- Reads the content of a group up to its end, which is left alone. Every round passes a character,
so `limit` rounds are enough for a text that is shorter. -/
def readContent : (limit : Nat) → Content → Reading Expression
  | 0, content => return content.finished (← here)
  | limit + 1, content => do
    passBlanks
    match ← next? with
    | none | some ')' => return content.finished (← here)
    | some '|' =>
      let stop ← here
      advance
      readContent limit (content.nextBranch stop (← here))
    | some '(' =>
      let opened ← nextSpan
      advance
      passBlanks
      match ← readOpened opened with
      | .modes changes =>
        switchSpaced changes
        readContent limit (content.push (.modes ⟨opened.start, ← here⟩ changes))
      | .group changes number =>
        let outside := (← get).spaced
        switchSpaced changes
        let body ← readContent limit { start := ← here }
        if (← next?) ≠ some ')' then fail .groupUnclosed opened
        modify fun cursor => { cursor with spaced := outside }
        advance
        readContent limit (content.push (.group ⟨opened.start, ← here⟩ changes number body))
    | some '{' => readContent limit (← repeatLatest content readCounts)
    | some c =>
      match signCounts.lookup c with
      | some counts => readContent limit (← repeatLatest content (readSign counts))
      | none => readContent limit (content.push (← readItem c))

def readAll : Reading Expression := do
  let expression ← readContent ((← get).rest.length + 1) { start := ← here }
  if (← next?).isSome then fail .groupUnopened (← nextSpan)
  return expression

def maxDepth : Nat := 250

def read (text : List Char) : Except Mistake Expression := do
  let (expression, _) ← readAll.run { rest := text }
  match expression.beyond? maxDepth 0 with
  | some span => .error ⟨.nestLimitExceeded maxDepth, span⟩
  | none => .ok expression

end Chip8.Expression
