import Chip8.Journal.Filter
import Chip8.Pattern.Read
import Chip8.Text.Blank
import Chip8.Text.Parts

/-!
Reading a filter.

A filter is written as directives separated by commas: `level`, `reporter` or `reporter=level`.
After a slash may follow a pattern. What is malformed is passed over with a warning; the warnings
come in the order of the text.
-/
namespace Chip8.Filter

/-- What is passed over in a filter. -/
inductive Warning where
  -- There is more than one slash, so the whole text counts for nothing.
  | tooManySlashes (text : List Char)
  | malformed (text : List Char)
  | unreadable (refusal : Pattern.Refusal)
  deriving DecidableEq, Repr

def Warning.message : Warning → String
  | tooManySlashes text =>
    "invalid logging spec '" ++ String.ofList text ++ "' (too many '/'s)"
  | malformed text => "invalid logging spec '" ++ String.ofList text ++ "'"
  | unreadable refusal => "invalid regex filter - " ++ refusal.message

def Warning.lines (warning : Warning) : List String :=
  (Text.parts '\n' ("warning: " ++ warning.message ++ ", ignoring it").toList).map String.ofList

/-- The ceiling named by a word of any case. -/
def ceiling? (word : List Char) : Option Nat :=
  let word := String.ofList (word.map Char.toUpper)
  if word = "OFF" then some 0
  else (Level.all.find? fun level => level.name = word).map Level.rank

def directive? (text : List Char) : Except Warning (Option Directive) :=
  let text := Text.trimmed text
  match Text.parts '=' text with
  | [[]] => .ok none
  | [word] =>
    match ceiling? word with
    | some ceiling => .ok (some ⟨none, ceiling⟩)
    | none => .ok (some ⟨some word, Level.trace.rank⟩)
  | [scope, word] =>
    let word := Text.trimmed word
    if word = [] then .ok (some ⟨some scope, Level.trace.rank⟩)
    else match ceiling? word with
      | some ceiling => .ok (some ⟨some scope, ceiling⟩)
      | none => .error (.malformed word)
  | _ => .error (.malformed text)

/-- Adds a directive. One of the same scope is replaced where it stands. -/
def insert (directives : List Directive) (directive : Directive) : List Directive :=
  if directives.any (·.scope == directive.scope) then
    directives.map fun other => if other.scope = directive.scope then directive else other
  else directives ++ [directive]

def readDirectives (text : List Char) : List Directive × List Warning :=
  (Text.parts ',' text).foldl (fun (directives, warnings) part =>
    match directive? part with
    | .ok none => (directives, warnings)
    | .ok (some directive) => (insert directives directive, warnings)
    | .error warning => (directives, warnings ++ [warning])) ([], [])

/-- Reads the pattern of a filter, if there is one, with what is passed over. -/
def readPattern : Option (List Char) → Option Pattern × List Warning
  | none => (none, [])
  | some text =>
    match Pattern.read text with
    | .ok pattern => (some pattern, [])
    | .error refusal => (none, [.unreadable refusal])

/-- The filter of some directives. Without a directive only errors are kept. -/
def ofDirectives (directives : List Directive) (pattern : Option Pattern) : Filter :=
  ⟨if directives.isEmpty then [⟨none, Level.error.rank⟩] else directives, pattern⟩

/-- Reads a filter, with what is passed over. -/
def read (text : String) : Filter × List Warning :=
  match Text.parts '/' text.toList with
  | rules :: rest =>
    if 1 < rest.length then (ofDirectives [] none, [.tooManySlashes text.toList])
    else
      let (directives, malformed) := readDirectives rules
      let (pattern, unreadable) := readPattern rest.head?
      (ofDirectives directives pattern, malformed ++ unreadable)
  | [] => (ofDirectives [] none, [])

end Chip8.Filter
