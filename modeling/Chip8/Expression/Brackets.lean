import Chip8.Expression.Escape

namespace Chip8.Expression

namespace ClassName

def names : List (List Char × ClassName) :=
  [("alnum".toList, alnum), ("alpha".toList, alpha), ("ascii".toList, ascii),
    ("blank".toList, blank), ("cntrl".toList, cntrl), ("digit".toList, digit),
    ("graph".toList, graph), ("lower".toList, lower), ("print".toList, print),
    ("punct".toList, punct), ("space".toList, space), ("upper".toList, upper),
    ("word".toList, word), ("xdigit".toList, xdigit)]

/-- The class named at the start of a text as in `[:alpha:]` or `[:^alpha:]`: how many characters
name it, which it is, and whether it is negated. -/
def ofChars? : List Char → Option (Nat × ClassName × Bool)
  | '[' :: ':' :: text =>
    let negated := text.head? == some '^'
    let text := if negated then text.drop 1 else text
    let name := text.takeWhile (· ≠ ':')
    if [':', ']'].isPrefixOf (text.drop name.length) then
      (names.lookup name).map fun found =>
        (name.length + (if negated then 5 else 4), found, negated)
    else none
  | _ => none

end ClassName

/-- The members of a class that have been read, the latest first. -/
structure Gathered where
  span : Span
  items : List ClassSet := []

namespace Gathered

def push (gathered : Gathered) (item : ClassSet) : Gathered where
  span := ⟨if gathered.items.isEmpty then item.span.start else gathered.span.start, item.span.stop⟩
  items := item :: gathered.items

/-- The class of the members; a single one stands for itself. -/
def toSet (gathered : Gathered) : ClassSet :=
  match gathered.items with
  | [] => .nothing gathered.span
  | [item] => item
  | items => .union gathered.span items.reverse

/-- The class of the members, joined to what stands before them. -/
def joined (gathered : Gathered) : Option (SetOperator × ClassSet) → ClassSet
  | none => gathered.toSet
  | some (operator, left) =>
    .operation ⟨left.span.start, gathered.toSet.span.stop⟩ operator left gathered.toSet

end Gathered

/-- The start of a class. -/
structure Opening where
  -- What is pointed at if the class does not end.
  span : Span
  negated : Bool
  gathered : Gathered

/-- Reads the hyphens at the start of a class, at most as many as `limit` has characters; `opened` is
where the class starts. -/
def readHyphens (opened : Place) : (limit : List Char) → Gathered → Reading Gathered
  | [], gathered => return gathered
  | _ :: limit, gathered => do
    if (← next?) = some '-' then
      let span ← nextSpan
      advanceOverBlanks
      if (← next?).isNone then fail .classUnclosed (.empty opened)
      readHyphens opened limit (gathered.push (.literal { span, value := '-' }))
    else return gathered

/-- Reads the start of a class: the bracket, a negation, and the hyphens or the closing bracket that
stand for themselves. -/
def readOpening : Reading Opening := do
  let opened ← here
  advanceOverBlanks
  let negated := (← required .classUnclosed opened) == '^'
  if negated then
    advanceOverBlanks
    let _ ← required .classUnclosed opened
  let gathered ← readHyphens opened (← get).rest { span := .empty (← here) }
  if gathered.items.isEmpty ∧ (← next?) = some ']' then
    let span ← nextSpan
    advanceOverBlanks
    let _ ← required .classUnclosed opened
    let gathered := gathered.push (.literal { span, value := ']' })
    return ⟨⟨opened, ← here⟩, negated, gathered⟩
  else return ⟨⟨opened, ← here⟩, negated, gathered⟩

/-- Reads an escape or a character that stands for itself. -/
def readMember : Reading Expression := do
  let span ← nextSpan
  match ← next? with
  | some '\\' => readEscape
  | some value =>
    advance
    return .literal { span, value }
  | none => fail .classUnclosed span

/-- What stands alone in a class. -/
def memberSet : Expression → Reading ClassSet
  | .literal written => return .literal written
  | .shorthand span kind negated => return .shorthand span kind negated
  | .property span isCategory => return .property span isCategory
  | other => fail .classEscapeInvalid other.span

def rangeEnd : Expression → Reading Literal
  | .literal written => return written
  | other => fail .classRangeLiteral other.span

/-- Reads a member of a class or a range. `opened` is what is pointed at if the class does not
end. -/
def readRange (opened : Span) : Reading ClassSet := do
  let first ← readMember
  passBlanks
  match ← next? with
  | none => fail .classUnclosed opened
  | some c =>
    if c ≠ '-' ∨ (← get).second? ∈ [some ']', some '-'] then memberSet first
    else
      advanceOverBlanks
      if (← next?).isNone then fail .classUnclosed opened
      let last ← readMember
      let span : Span := ⟨first.span.start, last.span.stop⟩
      let low ← rangeEnd first
      let high ← rangeEnd last
      if high.value < low.value then fail .classRangeInvalid span
      return .range span low high

def setOperator? : Char → Option Char → Option SetOperator
  | '&', some '&' => some .intersection
  | '-', some '-' => some .difference
  | '~', some '~' => some .symmetricDifference
  | _, _ => none

/-- Reads a class after its start, up to the closing bracket. Every round passes a character, so as
many rounds as `limit` has characters are enough for a text that is shorter. -/
def readClassRest (opened : Span) : (limit : List Char) → Gathered →
    Option (SetOperator × ClassSet) → Reading ClassSet
  | [], _, _ => fail .classUnclosed opened
  | _ :: limit, gathered, left => do
    passBlanks
    match ← next? with
    | none => fail .classUnclosed opened
    | some ']' =>
      advance
      return gathered.joined left
    | some '[' =>
      let start ← here
      match ClassName.ofChars? (← get).rest with
      | some (count, name, negated) =>
        advanceBy count
        let item := .named ⟨start, ← here⟩ name negated
        readClassRest opened limit (gathered.push item) left
      | none =>
        let inner ← readOpening
        let set ← readClassRest inner.span limit inner.gathered none
        let item := .bracketed ⟨start, ← here⟩ inner.negated set
        readClassRest opened limit (gathered.push item) left
    | some c =>
      match setOperator? c ((← get).rest.drop 1).head? with
      | some operator =>
        advanceBy 2
        let following : Gathered := { span := .empty (← here) }
        readClassRest opened limit following (some (operator, gathered.joined left))
      | none =>
        let item ← readRange opened
        readClassRest opened limit (gathered.push item) left

def readBrackets : Reading Expression := do
  let start ← here
  let limit := (← get).rest
  let opening ← readOpening
  let set ← readClassRest opening.span limit opening.gathered none
  return .bracketed ⟨start, ← here⟩ opening.negated set

end Chip8.Expression
