import Chip8.Options
import Chip8.Options.Argument
import Chip8.Text.Digits

/-!
Reading the command line.

The arguments are read from left to right. A value that stands in an argument of its own is kept
back and put into the options only when the next option, the first text or the end of the line shows
that it is complete; what is wrong with it is reported then. A name that does not exist, a value for
a switch and a second text are reported at once, before any value that is kept back is looked at.
-/
namespace Chip8.Options

/-- Why a command line is not run: something is wrong with it, or it asks for information. -/
inductive Refusal where
  | argumentConflict
  | displayHelp
  | displayVersion
  | invalidValue
  | missingRequiredArgument
  | tooManyValues
  | unknownArgument
  | valueValidation
  deriving DecidableEq, Repr

/-- The options given so far. -/
structure Given where
  rom : Option String := none
  speed : Option Nat := none
  fps : Option Binary64 := none
  tone : Option UInt16 := none
  seed : Option UInt64 := none
  frames : Option UInt64 := none
  mute : Bool := false
  inclusive : Bool := false
  deriving DecidableEq, Repr

/-- What has been read but not yet been put into the options. -/
inductive Pending where
  | nothing
  | awaited (setting : Setting)
  | valued (setting : Setting) (value : List Char)
  | program (text : List Char)
  deriving DecidableEq, Repr

/-- How far the reading has come. -/
structure Reader where
  given : Given := {}
  pending : Pending := .nothing
  named : Bool := false
  textOnly : Bool := false
  deriving DecidableEq, Repr

/-- The number written by decimal digits alone. -/
def naturalOf? (digits : List Char) : Option Nat :=
  if digits ≠ [] ∧ digits.all Char.isDigit then some (Text.natOfDigits digits) else none

/-- The number written with an optional sign. -/
def integerOf? : List Char → Option Int
  | '-' :: digits => (naturalOf? digits).map fun n => -(n : Int)
  | '+' :: digits => (naturalOf? digits).map Int.ofNat
  | digits => (naturalOf? digits).map Int.ofNat

/-- A number from `low` to `high`, with an optional sign. -/
def rangedOf? (low high : Nat) (text : List Char) : Option Nat :=
  match integerOf? text with
  | some value => if (low : Int) ≤ value ∧ value ≤ high then some value.toNat else none
  | none => none

/-- A number of at most 64 bits, with an optional plus. -/
def wordOf? (text : List Char) : Option UInt64 :=
  let digits := match text with
    | '+' :: digits => digits
    | digits => digits
  match naturalOf? digits with
  | some value => if value < UInt64.size then some (UInt64.ofNat value) else none
  | none => none

/-- Most instructions in a cycle that a user can ask for. -/
def maxSpeed : Nat := 1000

namespace Given

def has (given : Given) : Setting → Bool
  | .speed => given.speed.isSome
  | .fps => given.fps.isSome
  | .tone => given.tone.isSome
  | .seed => given.seed.isSome
  | .frames => given.frames.isSome

/-- The options with one more, if its value is well formed. -/
def put? (given : Given) (setting : Setting) (value : List Char) : Option Given :=
  match setting with
  | .speed => (rangedOf? 1 maxSpeed value).map fun n => { given with speed := some n }
  | .fps => (Binary64.read? (String.ofList value)).map fun x => { given with fps := some x }
  | .tone => (rangedOf? 0 65535 value).map fun n => { given with tone := some (UInt16.ofNat n) }
  | .seed => (wordOf? value).map fun n => { given with seed := some n }
  | .frames => (wordOf? value).map fun n => { given with frames := some n }

/-- Adds an option. That it is given twice is reported before anything about its value. -/
def set (given : Given) (setting : Setting) (value : List Char) : Except Refusal Given :=
  if given.has setting then .error .argumentConflict
  else
    match given.put? setting value with
    | some given => .ok given
    | none => .error .valueValidation

def turnOn (given : Given) : Switch → Except Refusal Given
  | .mute => if given.mute then .error .argumentConflict else .ok { given with mute := true }
  | .inclusive =>
    if given.inclusive then .error .argumentConflict else .ok { given with inclusive := true }
  | .help => .error .displayHelp
  | .version => .error .displayVersion

/-- The options in full, those not given having their usual values. -/
def complete (given : Given) : Except Refusal Options :=
  match given.rom with
  | none => .error .missingRequiredArgument
  | some rom =>
    let usual : Options := {}
    .ok { rom
          speed := given.speed.getD usual.speed
          rate := given.fps.getD usual.rate
          tone := given.tone.getD usual.tone
          seed := given.seed
          inclusive := given.inclusive
          mute := given.mute
          frames := given.frames }

end Given

namespace Reader

/-- Puts what is pending into the options. -/
def settle (reader : Reader) : Except Refusal Reader :=
  match reader.pending with
  | .nothing => .ok reader
  | .awaited _ => .error .invalidValue
  | .valued setting value => do
    let given ← reader.given.set setting value
    return { reader with given, pending := .nothing }
  | .program text =>
    if text = [] then .error .invalidValue
    else .ok
      { reader with
        given := { reader.given with rom := some (String.ofList text) }
        pending := .nothing }

/-- Reads an option whose value is part of the same argument. -/
def readAttached (reader : Reader) (setting : Setting) (value : List Char) :
    Except Refusal Reader := do
  let reader ← reader.settle
  let given ← reader.given.set setting value
  return { reader with given }

/-- Reads an option whose value is the next argument. -/
def readAwaited (reader : Reader) (setting : Setting) : Except Refusal Reader := do
  let reader ← reader.settle
  return { reader with pending := .awaited setting }

def readSwitch (reader : Reader) (switch : Switch) : Except Refusal Reader := do
  let reader ← reader.settle
  let given ← reader.given.turnOn switch
  return { reader with given }

def readLong (reader : Reader) (name : List Char) (value : Option (List Char)) :
    Except Refusal Reader :=
  match longNames.lookup name, value with
  | some (.setting setting), some value => reader.readAttached setting value
  | some (.setting setting), none => reader.readAwaited setting
  | some (.switch switch), none => reader.readSwitch switch
  | some (.switch _), some _ => .error .tooManyValues
  | none, _ => .error .unknownArgument

/-- Reads one-letter options in a row. The rest of the row after an option that takes a value is
that value, with or without a leading `=`. -/
def readCluster (reader : Reader) : List Char → Except Refusal Reader
  | [] => .ok reader
  | letter :: rest =>
    match shortNames.lookup letter with
    | some (.setting setting) =>
      match rest with
      | [] => reader.readAwaited setting
      | '=' :: value => reader.readAttached setting value
      | value => reader.readAttached setting value
    | some (.switch switch) => do
      let reader ← reader.readSwitch switch
      reader.readCluster rest
    | none => .error .unknownArgument

/-- Reads a text: the value of the option that awaits one, or else the name of the program. -/
def readText (reader : Reader) (text : List Char) : Except Refusal Reader :=
  match reader.textOnly, reader.pending with
  | false, .awaited setting => .ok { reader with pending := .valued setting text }
  | _, _ =>
    if reader.named then .error .unknownArgument
    else do
      let reader ← reader.settle
      return { reader with pending := .program text, named := true }

def read (reader : Reader) (argument : String) : Except Refusal Reader :=
  if reader.textOnly then reader.readText argument.toList
  else
    match Argument.ofChars argument.toList with
    | .endOfOptions => .ok { reader with textOnly := true }
    | .long name value => reader.readLong name value
    | .cluster letters => reader.readCluster letters
    | .text text => reader.readText text

def readAll (reader : Reader) : List String → Except Refusal Reader
  | [] => .ok reader
  | argument :: rest => do
    let reader ← reader.read argument
    reader.readAll rest

end Reader

/-- Reads a command line, given without the name of the command. -/
def ofArguments (arguments : List String) : Except Refusal Options := do
  let reader ← ({} : Reader).readAll arguments
  let reader ← reader.settle
  reader.given.complete

end Chip8.Options
