namespace Chip8.Options

/-- An option that takes a value. -/
inductive Setting where
  | speed | fps | tone | seed | frames
  deriving DecidableEq, Repr

/-- An option that takes none. -/
inductive Switch where
  | mute | inclusive | help | version
  deriving DecidableEq, Repr

inductive Name where
  | setting (setting : Setting)
  | switch (switch : Switch)
  deriving DecidableEq, Repr

def longNames : List (List Char × Name) :=
  [("speed".toList, .setting .speed), ("fps".toList, .setting .fps),
    ("tone".toList, .setting .tone), ("seed".toList, .setting .seed),
    ("frames".toList, .setting .frames),
    ("mute".toList, .switch .mute), ("inclusive-load-store".toList, .switch .inclusive),
    ("help".toList, .switch .help), ("version".toList, .switch .version)]

def shortNames : List (Char × Name) :=
  [('s', .setting .speed), ('m', .switch .mute), ('h', .switch .help), ('V', .switch .version)]

/-- The shape of an argument. -/
inductive Argument where
  -- `--`: everything that follows is text.
  | endOfOptions
  -- `--name`, or `--name=value`.
  | long (name : List Char) (value : Option (List Char))
  -- `-abc`: one-letter options in a row.
  | cluster (letters : List Char)
  -- Anything else, a lone dash included.
  | text (text : List Char)
  deriving DecidableEq, Repr

/-- What stands before the first `=` and what stands after it. -/
def splitValue : List Char → List Char × Option (List Char)
  | [] => ([], none)
  | '=' :: rest => ([], some rest)
  | c :: rest => (c :: (splitValue rest).1, (splitValue rest).2)

def Argument.ofChars : List Char → Argument
  | ['-', '-'] => .endOfOptions
  | '-' :: '-' :: rest => .long (splitValue rest).1 (splitValue rest).2
  | '-' :: c :: rest => .cluster (c :: rest)
  | chars => .text chars

end Chip8.Options
