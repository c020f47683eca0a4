import Chip8.Proofs.Options.Numeral

/-! Command lines that state some choices. Each choice is written in one of the ways there are for
it, in any order and at most once; what is left out is as usual. Some choices share an argument. -/
namespace Chip8.Options

/-- What a command line can state. -/
inductive Choice where
  | program
  | setting (setting : Setting)
  | mute
  | inclusive
  deriving DecidableEq, Repr

def Setting.longName : Setting → String
  | .speed => "speed"
  | .fps => "fps"
  | .tone => "tone"
  | .seed => "seed"
  | .frames => "frames"

/-- Whether a text cannot be taken for an option. -/
def Dashless (text : String) : Prop := text.toList.head? ≠ some '-'

instance (text : String) : Decidable (Dashless text) :=
  inferInstanceAs (Decidable (text.toList.head? ≠ some '-'))

/-- Whether a value tells what is chosen for an option. -/
def Conveys (options : Options) : Setting → String → Prop
  | .speed, value => Numeral options.speed value.toList
  | .fps, value => Binary64.read? value = some options.rate
  | .tone, value => Numeral options.tone.toNat value.toList
  | .seed, value => ∃ seed, options.seed = some seed ∧ Numeral seed.toNat value.toList
  | .frames, value => ∃ frames, options.frames = some frames ∧ Numeral frames.toNat value.toList

/-- Whether a choice is what it is without being stated: ten instructions in a cycle, sixty cycles in
a second, a tone of 440 Hz, and nothing else asked for. There is no usual program. -/
def Usual (options : Options) : Choice → Prop
  | .program => False
  | .setting .speed => options.speed = 10
  | .setting .fps => options.rate = ⟨0x404e000000000000⟩
  | .setting .tone => options.tone = 440
  | .setting .seed => options.seed = none
  | .setting .frames => options.frames = none
  | .mute => options.mute = false
  | .inclusive => options.inclusive = false

/-- The letter of the speed, perhaps in a row with that of the mute switch, and what the row states
beside the speed. -/
inductive Letters (options : Options) : List Choice → String → Prop where
  | speed : Letters options [] "-s"
  | muteSpeed (on : options.mute = true) : Letters options [.mute] "-ms"

/-- The ways to write one choice, or two that share an argument. -/
inductive Spells (options : Options) : List Choice → List String → Prop where
  | program (named : options.rom ≠ "") (dashless : Dashless options.rom) :
      Spells options [.program] [options.rom]
  -- As in `--tone 440`.
  | long {setting : Setting} {value : String} (conveys : options.Conveys setting value)
      (dashless : Dashless value) :
      Spells options [.setting setting] ["--" ++ setting.longName, value]
  -- As in `--tone=440`.
  | longEqual {setting : Setting} {value : String} (conveys : options.Conveys setting value) :
      Spells options [.setting setting] ["--" ++ setting.longName ++ "=" ++ value]
  -- As in `-s 10` and `-ms 10`.
  | short {others : List Choice} {letters value : String} (row : Letters options others letters)
      (conveys : options.Conveys .speed value) (dashless : Dashless value) :
      Spells options (.setting .speed :: others) [letters, value]
  -- As in `-s10` and `-ms10`.
  | shortJoined {others : List Choice} {letters value : String}
      (row : Letters options others letters) (conveys : options.Conveys .speed value) :
      Spells options (.setting .speed :: others) [letters ++ value]
  -- As in `-s=10` and `-ms=10`.
  | shortEqual {others : List Choice} {letters value : String}
      (row : Letters options others letters) (conveys : options.Conveys .speed value) :
      Spells options (.setting .speed :: others) [letters ++ "=" ++ value]
  | muteLong (on : options.mute = true) : Spells options [.mute] ["--mute"]
  | muteShort (on : options.mute = true) : Spells options [.mute] ["-m"]
  | inclusive (on : options.inclusive = true) :
      Spells options [.inclusive] ["--inclusive-load-store"]

/-- Command lines that state choices one after the other, the latest first. -/
inductive Lists (options : Options) : List Choice → List String → Prop where
  | nothing : Lists options [] []
  | more {earlier choices : List Choice} {line arguments : List String}
      (before : Lists options earlier line) (spells : Spells options choices arguments) :
      Lists options (choices ++ earlier) (line ++ arguments)

/-- Command lines as a whole: after two dashes there is at most the program, whatever its name. -/
inductive States (options : Options) : List Choice → List String → Prop where
  | plain {choices : List Choice} {line : List String} (lists : Lists options choices line) :
      States options choices line
  | ended {choices : List Choice} {line : List String} (lists : Lists options choices line) :
      States options choices (line ++ ["--"])
  | program {choices : List Choice} {line : List String} (lists : Lists options choices line)
      (named : options.rom ≠ "") :
      States options (.program :: choices) (line ++ ["--", options.rom])

/-- Whether a command line is written for some options: it states no choice twice, and those that it
leaves out are as usual. -/
def WrittenAs (options : Options) (arguments : List String) : Prop :=
  ∃ choices, States options choices arguments ∧ choices.Nodup ∧
    ∀ choice, choice ∉ choices → options.Usual choice

end Chip8.Options
