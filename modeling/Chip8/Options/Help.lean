import Chip8.Options

namespace Chip8.Options

/-- An argument as it is written, and what it does. -/
abbrev HelpEntry := String × String

/-- A text with a default after it. -/
def withDefault (text value : String) : String := text ++ " [default: " ++ value ++ "]"

def textEntries : List HelpEntry :=
  [("<ROM>", "Filepath to the CHIP-8 program that will be executed")]

/-- The entries of the options. Long names stand below each other. -/
def optionEntries : List HelpEntry :=
  let usual : Options := {}
  [("-s, --speed <SPEED>", withDefault "Instructions executed per cycle" (toString usual.speed)),
    ("    --fps <FPS>",
      withDefault "Cycles per second; timers tick once per cycle" usual.rate.write),
    ("    --tone <TONE>",
      withDefault "Tone frequency in Hz while the sound timer runs" (toString usual.tone.toNat)),
    ("-m, --mute", "Don't use the PC speaker"),
    ("    --seed <SEED>", "PRNG seed for Cxkk"),
    ("    --frames <FRAMES>", "Stop after this many cycles"),
    ("    --inclusive-load-store", "Make Fx55/Fx65 cover V0 through Vx inclusive"),
    ("-h, --help", "Print help"),
    ("-V, --version", "Print version")]

def entryLines (entries : List HelpEntry) : List String :=
  let width := (entries.map fun (written, _) => written.length).foldl max 0 + 2
  entries.map fun (written, summary) =>
    "  " ++ written ++ String.ofList (List.replicate (width - written.length) ' ') ++ summary

def help : String :=
  "\n".intercalate <|
    ["CHIP-8 interpreter", "", "Usage: chip8-vm [OPTIONS] <ROM>", "", "Arguments:"] ++
      entryLines textEntries ++ ["", "Options:"] ++ entryLines optionEntries

end Chip8.Options
