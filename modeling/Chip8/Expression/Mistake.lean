import Chip8.Expression.Place
import Chip8.Text.Parts

/-!
What can be wrong with a written expression, and the report that points at it.

The report repeats the expression and puts carets under the stretches in question. The lines of an
expression of several lines are numbered; a stretch that covers several lines is named by its ends.
-/
namespace Chip8.Expression

inductive Flaw where
  | classEscapeInvalid
  | classRangeInvalid
  | classRangeLiteral
  | classUnclosed
  | decimalInvalid
  | escapeHexEmpty
  | escapeHexInvalid
  | escapeHexInvalidDigit
  | escapeUnfinished
  | escapeUnrecognized
  | flagDanglingNegation
  | flagDuplicate (earlier : Span)
  | flagRepeatedNegation (earlier : Span)
  | flagUnfinished
  | flagUnrecognized
  | groupNameDuplicate (earlier : Span)
  | groupNameEmpty
  | groupNameInvalid
  | groupNameUnfinished
  | groupUnclosed
  | groupUnopened
  | nestLimitExceeded (limit : Nat)
  | repetitionCountInvalid
  | repetitionCountMissing
  | repetitionCountUnclosed
  | repetitionMissing
  | wordBoundaryUnclosed
  | wordBoundaryUnrecognized
  | wordBoundaryUnfinished
  | propertyInvalid
  | backreference
  | lookAround
  | characterNotAllowed
  | invalidText
  | propertyUnknown
  | propertyValueUnknown
  | classOfAllScripts
  | caseOfAllScripts
  deriving DecidableEq, Repr

namespace Flaw

def message : Flaw → String
  | classEscapeInvalid => "invalid escape sequence found in character class"
  | classRangeInvalid => "invalid character class range, the start must be <= the end"
  | classRangeLiteral => "invalid range boundary, must be a literal"
  | classUnclosed => "unclosed character class"
  | decimalInvalid => "decimal literal invalid"
  | escapeHexEmpty => "hexadecimal literal empty"
  | escapeHexInvalid => "hexadecimal literal is not a Unicode scalar value"
  | escapeHexInvalidDigit => "invalid hexadecimal digit"
  | escapeUnfinished => "incomplete escape sequence, reached end of pattern prematurely"
  | escapeUnrecognized => "unrecognized escape sequence"
  | flagDanglingNegation => "dangling flag negation operator"
  | flagDuplicate _ => "duplicate flag"
  | flagRepeatedNegation _ => "flag negation operator repeated"
  | flagUnfinished => "expected flag but got end of regex"
  | flagUnrecognized => "unrecognized flag"
  | groupNameDuplicate _ => "duplicate capture group name"
  | groupNameEmpty => "empty capture group name"
  | groupNameInvalid => "invalid capture group character"
  | groupNameUnfinished => "unclosed capture group name"
  | groupUnclosed => "unclosed group"
  | groupUnopened => "unopened group"
  | nestLimitExceeded limit =>
    s!"exceed the maximum number of nested parentheses/brackets ({limit})"
  | repetitionCountInvalid => "invalid repetition count range, the start must be <= the end"
  | repetitionCountMissing => "repetition quantifier expects a valid decimal"
  | repetitionCountUnclosed => "unclosed counted repetition"
  | repetitionMissing => "repetition operator missing expression"
  | wordBoundaryUnclosed =>
    "special word boundary assertion is either unclosed or contains an invalid character"
  | wordBoundaryUnrecognized =>
    "unrecognized special word boundary assertion, valid choices are: " ++
      "start, end, start-half or end-half"
  | wordBoundaryUnfinished =>
    "found either the beginning of a special word boundary or a bounded repetition on a \\b " ++
      "with an opening brace, but no closing brace"
  | propertyInvalid => "invalid Unicode character class"
  | backreference => "backreferences are not supported"
  | lookAround => "look-around, including look-ahead and look-behind, is not supported"
  | characterNotAllowed => "Unicode not allowed here"
  | invalidText => "pattern can match invalid UTF-8"
  | propertyUnknown => "Unicode property not found"
  | propertyValueUnknown => "Unicode property value not found"
  | classOfAllScripts =>
    "Unicode-aware Perl class not found (make sure the unicode-perl feature is enabled)"
  | caseOfAllScripts =>
    "Unicode-aware case insensitivity matching is not available " ++
      "(make sure the unicode-case feature is enabled)"

/-- Where the thing stands that this one collides with. -/
def earlier? : Flaw → Option Span
  | flagDuplicate earlier | flagRepeatedNegation earlier | groupNameDuplicate earlier =>
    some earlier
  | _ => none

end Flaw

structure Mistake where
  flaw : Flaw
  span : Span
  deriving DecidableEq, Repr

namespace Mistake

/-- The stretches in question, in the order of the text. -/
def spans (mistake : Mistake) : List Span :=
  match mistake.flaw.earlier? with
  | none => [mistake.span]
  | some earlier =>
    if mistake.span.precedes earlier then [mistake.span, earlier] else [earlier, mistake.span]

/-- Blanks up to each stretch of one line and carets under it; at least one caret each. -/
def carets (reached : Nat) : List Span → List Char
  | [] => []
  | span :: rest =>
    let gap := span.start.column - 1 - reached
    let width := max 1 span.width
    List.replicate gap ' ' ++ List.replicate width '^' ++ carets (reached + gap + width) rest

/-- A line without the carriage return before its line feed. -/
def withoutReturn (line : List Char) : List Char :=
  if line.getLast? = some '\r' then line.dropLast else line

/-- The lines of a text. A line feed at the end starts no further line. -/
def linesOf (text : List Char) : List (List Char) :=
  let parts := Text.parts '\n' text
  parts.dropLast.map withoutReturn ++ parts.getLast?.toList.filter (!·.isEmpty)

/-- A line of an expression under its label, and the carets below it. -/
def notedLine (labelWidth number : Nat) (spans : List Span) (line : List Char) : List String :=
  let here := spans.filter fun span => span.isOneLine && span.start.line == number
  let label := if labelWidth = 0 then "    ".toList
    else List.leftpad labelWidth ' ' (Nat.toDigits 10 number) ++ ": ".toList
  let written := String.ofList (label ++ line)
  if here.isEmpty then [written]
  else [written, String.ofList (List.replicate label.length ' ' ++ carets 0 here)]

/-- The lines of an expression with their carets, numbered from `number` on. -/
def notedLines (labelWidth : Nat) (spans : List Span) (number : Nat) :
    List (List Char) → List String
  | [] => []
  | line :: rest =>
    notedLine labelWidth number spans line ++ notedLines labelWidth spans (number + 1) rest

/-- Names the ends of a stretch that covers several lines. -/
def extentNote (span : Span) : String :=
  s!"on line {span.start.line} (column {span.start.column}) " ++
    s!"through line {span.stop.line} (column {span.stop.column - 1})"

/-- The lines of the report on a mistake in an expression. -/
def reportLines (mistake : Mistake) (expression : List Char) : List String :=
  let lineCount := (Text.parts '\n' expression).length
  let labelWidth := if lineCount ≤ 1 then 0 else (Nat.toDigits 10 lineCount).length
  let noted := notedLines labelWidth mistake.spans 1 (linesOf expression)
  let divider := String.ofList (List.replicate 79 '~')
  let body := if lineCount ≤ 1 then noted
    else divider :: noted ++
      divider :: (mistake.spans.filter fun span => !span.isOneLine).map extentNote
  "regex parse error:" :: body ++ ["error: " ++ mistake.flaw.message]

def report (mistake : Mistake) (expression : List Char) : String :=
  "\n".intercalate (mistake.reportLines expression)

end Mistake

end Chip8.Expression
