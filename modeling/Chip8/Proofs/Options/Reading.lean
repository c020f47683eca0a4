import Chip8.Proofs.Binary64.Value
import Chip8.Proofs.Options.Accepted
import Chip8.Proofs.Options.Spelling

namespace Chip8.Options

private theorem ok_bind {α β : Type} (value : α) (next : α → Except Refusal β) :
    (Except.ok value >>= next) = next value := rfl

section Shapes

private theorem ofChars_longName (setting : Setting) :
    Argument.ofChars ("--" ++ setting.longName).toList = .long setting.longName.toList none := by
  cases setting <;> rfl

private theorem ofChars_longEqual (setting : Setting) (value : String) :
    Argument.ofChars ("--" ++ setting.longName ++ "=" ++ value).toList =
      .long setting.longName.toList (some value.toList) := by
  simp only [String.toList_append]
  cases setting <;> rfl

private theorem ofChars_of_dashless {text : String} (dashless : Dashless text) :
    Argument.ofChars text.toList = .text text.toList := by
  unfold Argument.ofChars
  split
  · rename_i same
    exact absurd (congrArg List.head? same) dashless
  · rename_i same
    exact absurd (congrArg List.head? same) dashless
  · rename_i same
    exact absurd (congrArg List.head? same) dashless
  · rfl

private theorem lookup_longName (setting : Setting) :
    longNames.lookup setting.longName.toList = some (.setting setting) := by
  cases setting <;> rfl

end Shapes

/-- What has been given once some choices have been read. -/
private def givenFor (options : Options) (choices : List Choice) : Given where
  rom := if .program ∈ choices then some options.rom else none
  speed := if .setting .speed ∈ choices then some options.speed else none
  fps := if .setting .fps ∈ choices then some options.rate else none
  tone := if .setting .tone ∈ choices then some options.tone else none
  seed := if .setting .seed ∈ choices then options.seed else none
  frames := if .setting .frames ∈ choices then options.frames else none
  mute := decide (.mute ∈ choices) && options.mute
  inclusive := decide (.inclusive ∈ choices) && options.inclusive

/-- The reader that has read some choices and has nothing pending. -/
private def readerFor (options : Options) (choices : List Choice) (textOnly : Bool := false) :
    Reader where
  given := options.givenFor choices
  named := decide (.program ∈ choices)
  textOnly

/-- The reader that has read some choices and then an option whose value comes next. -/
private def awaiting (options : Options) (choices : List Choice) (setting : Setting) : Reader :=
  { options.readerFor choices with pending := .awaited setting }

/-- Whether a reader holds what some choices say, be it that a value is still pending. -/
private def Holds (options : Options) (choices : List Choice) (reader : Reader)
    (textOnly : Bool := false) : Prop :=
  reader.settle = .ok (options.readerFor choices textOnly)

/-- What has been given with what is pending put in. -/
private def Pending.put (pending : Pending) (given : Given) : Except Refusal Given :=
  match pending with
  | .nothing => .ok given
  | .awaited _ => .error .invalidValue
  | .valued setting value => given.set setting value
  | .program text =>
    if text = [] then .error .invalidValue
    else .ok { given with rom := some (String.ofList text) }

section Settling

variable {reader settled : Reader}

private theorem settle_eq (reader : Reader) :
    reader.settle = (reader.pending.put reader.given).map fun given =>
      { reader with given, pending := .nothing } := by
  obtain ⟨given, pending, named, textOnly⟩ := reader
  cases pending with
  | nothing => rfl
  | awaited setting => rfl
  | valued setting value => rfl
  | program text => by_cases empty : text = [] <;> simp [Reader.settle, Pending.put, empty] <;> rfl

private theorem exists_of_settle (settles : reader.settle = .ok settled) :
    ∃ given, reader.pending.put reader.given = .ok given ∧
      settled = { reader with given, pending := .nothing } := by
  rw [settle_eq] at settles
  cases put : reader.pending.put reader.given with
  | error refusal =>
    rw [put] at settles
    cases settles
  | ok given =>
    rw [put] at settles
    cases settles
    exact ⟨given, rfl, rfl⟩

/-- What is pending is put in alike after two dashes. -/
private theorem settle_textOnly (settles : reader.settle = .ok settled) :
    ({ reader with textOnly := true } : Reader).settle = .ok { settled with textOnly := true } := by
  obtain ⟨given, put, rfl⟩ := exists_of_settle settles
  rw [settle_eq]
  simp only [put]
  rfl

/-- A text after complete choices names the program. -/
private theorem readText_of_settles (settles : reader.settle = .ok settled)
    (unnamed : settled.named = false) (text : List Char) :
    reader.readText text = .ok { settled with pending := .program text, named := true } := by
  obtain ⟨given, put, same⟩ := exists_of_settle settles
  have unnamed : reader.named = false := by
    rw [same] at unnamed
    exact unnamed
  unfold Reader.readText
  split
  · -- A text would be the value of an option that awaits one, but nothing settles then.
    rename_i setting _ awaited
    rw [awaited] at put
    cases put
  · rw [unnamed, settles]
    rfl

end Settling

variable {options : Options} {choices : List Choice} {reader : Reader}

private theorem set_of_conveys (speed : 1 ≤ options.speed ∧ options.speed ≤ maxSpeed)
    {setting : Setting} {value : String} (conveys : options.Conveys setting value)
    (new : .setting setting ∉ choices) :
    (options.givenFor choices).set setting value.toList =
      .ok (options.givenFor (.setting setting :: choices)) := by
  have unset : (options.givenFor choices).has setting = false := by
    cases setting <;> simp [Given.has, givenFor, new]
  have put : (options.givenFor choices).put? setting value.toList =
      some (options.givenFor (.setting setting :: choices)) := by
    cases setting with
    | speed =>
      simp only [Given.put?, rangedOf?_of_numeral conveys speed.1 speed.2]
      simp [givenFor]
    | fps =>
      have read : Binary64.read? value = some options.rate := conveys
      simp only [Given.put?, String.ofList_toList, read]
      simp [givenFor]
    | tone =>
      have most : options.tone.toNat ≤ 65535 := Nat.le_of_lt_succ options.tone.toNat_lt_size
      simp only [Given.put?, rangedOf?_of_numeral conveys (Nat.zero_le _) most]
      simp [givenFor]
    | seed =>
      obtain ⟨seed, chosen, numeral⟩ := conveys
      simp only [Given.put?, wordOf?_of_numeral numeral]
      simp [givenFor, chosen]
    | frames =>
      obtain ⟨frames, chosen, numeral⟩ := conveys
      simp only [Given.put?, wordOf?_of_numeral numeral]
      simp [givenFor, chosen]
  simp only [Given.set, unset, put]
  rfl

private theorem holds_readerFor : Holds options choices (options.readerFor choices) := rfl

private theorem given_readerFor :
    (options.readerFor choices).given = options.givenFor choices := rfl

/-- No choice but the program is told by more than what has been given. -/
private theorem readerFor_cons {choice : Choice} (other : choice ≠ .program) :
    ({ options.readerFor choices with given := options.givenFor (choice :: choices) } : Reader) =
      options.readerFor (choice :: choices) := by
  simp [readerFor, other.symm]

private theorem attach (speed : 1 ≤ options.speed ∧ options.speed ≤ maxSpeed)
    (holds : Holds options choices reader) {setting : Setting} {value : String}
    (conveys : options.Conveys setting value) (new : .setting setting ∉ choices) :
    reader.readAttached setting value.toList =
      .ok (options.readerFor (.setting setting :: choices)) := by
  rw [Reader.readAttached, holds, ok_bind, given_readerFor, set_of_conveys speed conveys new,
    ok_bind]
  exact congrArg Except.ok (readerFor_cons nofun)

private theorem await (holds : Holds options choices reader) (setting : Setting) :
    reader.readAwaited setting = .ok (options.awaiting choices setting) := by
  rw [Reader.readAwaited, holds, ok_bind]
  rfl

private theorem turn {switch : Switch} {choice : Choice} (holds : Holds options choices reader)
    (turned : (options.givenFor choices).turnOn switch =
      .ok (options.givenFor (choice :: choices))) (other : choice ≠ .program) :
    reader.readSwitch switch = .ok (options.readerFor (choice :: choices)) := by
  rw [Reader.readSwitch, holds, ok_bind, given_readerFor, turned, ok_bind]
  exact congrArg Except.ok (readerFor_cons other)

private theorem turn_mute (holds : Holds options choices reader) (on : options.mute = true)
    (new : .mute ∉ choices) :
    reader.readSwitch .mute = .ok (options.readerFor (.mute :: choices)) := by
  refine turn holds ?_ nofun
  simp [Given.turnOn, givenFor, on, new]

private theorem turn_inclusive (holds : Holds options choices reader)
    (on : options.inclusive = true) (new : .inclusive ∉ choices) :
    reader.readSwitch .inclusive = .ok (options.readerFor (.inclusive :: choices)) := by
  refine turn holds ?_ nofun
  simp [Given.turnOn, givenFor, on, new]

private theorem textOnly_of_holds {textOnly : Bool}
    (holds : Holds options choices reader textOnly) : reader.textOnly = textOnly := by
  obtain ⟨given, _, same⟩ := exists_of_settle holds
  exact (congrArg Reader.textOnly same).symm

private theorem read_long {argument : String} {name : List Char} {value : Option (List Char)}
    (holds : Holds options choices reader)
    (shape : Argument.ofChars argument.toList = .long name value) :
    reader.read argument = reader.readLong name value := by
  simp only [Reader.read, textOnly_of_holds holds, shape, Bool.false_eq_true, if_false]

private theorem read_cluster {argument : String} {letters : List Char}
    (holds : Holds options choices reader)
    (shape : Argument.ofChars argument.toList = .cluster letters) :
    reader.read argument = reader.readCluster letters := by
  simp only [Reader.read, textOnly_of_holds holds, shape, Bool.false_eq_true, if_false]

/-- A value that was waited for is kept back and completes the choice. -/
private theorem read_value (speed : 1 ≤ options.speed ∧ options.speed ≤ maxSpeed)
    {setting : Setting} {value : String} (conveys : options.Conveys setting value)
    (dashless : Dashless value) (new : .setting setting ∉ choices) :
    ∃ after, (options.awaiting choices setting).readAll [value] = .ok after ∧
      Holds options (.setting setting :: choices) after := by
  refine ⟨{ options.readerFor choices with pending := .valued setting value.toList }, ?_, ?_⟩
  · rw [Reader.readAll, Reader.read, ofChars_of_dashless dashless]
    rfl
  · have set := set_of_conveys speed conveys new
    rw [Holds, settle_eq, given_readerFor, Pending.put, set]
    exact congrArg Except.ok (readerFor_cons nofun)

private theorem read_program {textOnly : Bool} (holds : Holds options choices reader textOnly)
    (named : options.rom ≠ "") (new : .program ∉ choices) :
    ∃ after, reader.readText options.rom.toList = .ok after ∧
      Holds options (.program :: choices) after textOnly := by
  have unnamed : (options.readerFor choices textOnly).named = false := by simp [readerFor, new]
  refine ⟨_, readText_of_settles holds unnamed _, ?_⟩
  have some : options.rom.toList ≠ [] := by
    intro empty
    exact named (String.toList_inj.mp empty)
  simp [Holds, Reader.settle, some, readerFor, givenFor]

private theorem readLong_some (setting : Setting) (value : List Char) :
    reader.readLong setting.longName.toList (some value) = reader.readAttached setting value := by
  simp only [Reader.readLong, lookup_longName]

private theorem readLong_none (setting : Setting) :
    reader.readLong setting.longName.toList none = reader.readAwaited setting := by
  simp only [Reader.readLong, lookup_longName]

/-- The letter of the speed, with the value behind it or after a sign of equality. -/
private theorem readCluster_joined {value : List Char} {n : Nat} (numeral : Numeral n value) :
    reader.readCluster ('s' :: value) = reader.readAttached .speed value ∧
      reader.readCluster ('s' :: '=' :: value) = reader.readAttached .speed value := by
  obtain ⟨c, rest, rfl, other⟩ := numeral.exists_cons
  refine ⟨?_, rfl⟩
  rw [Reader.readCluster]
  simp only [show shortNames.lookup 's' = some (.setting .speed) from rfl]
  split
  · rename_i same
    cases same
  · rename_i same
    cases same
    exact absurd rfl other
  · rfl

/-- What stands before the letter of the speed is read first, if anything does. -/
private theorem read_letters {others : List Choice} {letters : String}
    (row : Letters options others letters) (holds : Holds options choices reader)
    (nodup : (others ++ choices).Nodup) {argument : String} {tail : List Char}
    (written : argument.toList = letters.toList ++ tail) :
    ∃ before, Holds options (others ++ choices) before ∧
      reader.read argument = before.readCluster ('s' :: tail) := by
  cases row with
  | speed => exact ⟨reader, holds, read_cluster holds (by rw [written]; rfl)⟩
  | muteSpeed on =>
    have shape : Argument.ofChars argument.toList = .cluster ('m' :: 's' :: tail) := by
      rw [written]
      rfl
    refine ⟨_, holds_readerFor, ?_⟩
    rw [read_cluster holds shape]
    exact congrArg (· >>= fun reader => reader.readCluster ('s' :: tail))
      (turn_mute holds on (List.nodup_cons.mp nodup).1)

private theorem readAll_single {argument : String} {after : Reader}
    (read : reader.read argument = .ok after) : reader.readAll [argument] = .ok after := by
  rw [Reader.readAll, read]
  rfl

private theorem readAll_awaiting {name value : String} {setting : Setting} {after : Reader}
    (first : reader.read name = .ok (options.awaiting choices setting))
    (second : (options.awaiting choices setting).readAll [value] = .ok after) :
    reader.readAll [name, value] = .ok after := by
  rw [Reader.readAll, first, ok_bind, second]

/-- Reading what spells one or two choices adds them to what a reader holds. -/
private theorem read_spells (speed : 1 ≤ options.speed ∧ options.speed ≤ maxSpeed)
    {new : List Choice} {arguments : List String} (spells : Spells options new arguments)
    (holds : Holds options choices reader) (nodup : (new ++ choices).Nodup) :
    ∃ after, reader.readAll arguments = .ok after ∧ Holds options (new ++ choices) after := by
  cases spells with
  | program named dashless =>
    obtain ⟨after, read, held⟩ := read_program holds named (List.nodup_cons.mp nodup).1
    refine ⟨after, readAll_single ?_, held⟩
    simp only [Reader.read, textOnly_of_holds holds, ofChars_of_dashless dashless]
    exact read
  | @long setting value conveys dashless =>
    obtain ⟨after, read, held⟩ := read_value speed conveys dashless (List.nodup_cons.mp nodup).1
    refine ⟨after, readAll_awaiting ?_ read, held⟩
    rw [read_long holds (ofChars_longName setting), readLong_none]
    exact await holds setting
  | @longEqual setting value conveys =>
    refine ⟨_, readAll_single ?_, holds_readerFor⟩
    rw [read_long holds (ofChars_longEqual setting value), readLong_some]
    exact attach speed holds conveys (List.nodup_cons.mp nodup).1
  | @short others letters value row conveys dashless =>
    obtain ⟨new, rest⟩ := List.nodup_cons.mp nodup
    obtain ⟨before, holds, read⟩ := read_letters row holds rest (List.append_nil _).symm
    obtain ⟨after, second, held⟩ := read_value speed conveys dashless new
    refine ⟨after, readAll_awaiting ?_ second, held⟩
    rw [read]
    exact await holds .speed
  | @shortJoined others letters value row conveys =>
    obtain ⟨new, rest⟩ := List.nodup_cons.mp nodup
    obtain ⟨before, holds, read⟩ := read_letters row holds rest
      (String.toList_append (s := letters) (t := value))
    refine ⟨_, readAll_single ?_, holds_readerFor⟩
    rw [read, (readCluster_joined conveys).1]
    exact attach speed holds conveys new
  | @shortEqual others letters value row conveys =>
    obtain ⟨new, rest⟩ := List.nodup_cons.mp nodup
    have written : (letters ++ "=" ++ value).toList = letters.toList ++ '=' :: value.toList := by
      rw [String.toList_append, String.toList_append, List.append_assoc]
      rfl
    obtain ⟨before, holds, read⟩ := read_letters row holds rest written
    refine ⟨_, readAll_single ?_, holds_readerFor⟩
    rw [read, (readCluster_joined conveys).2]
    exact attach speed holds conveys new
  | muteLong on =>
    refine ⟨_, readAll_single ?_, holds_readerFor⟩
    have shape : Argument.ofChars "--mute".toList = .long "mute".toList none := rfl
    rw [read_long holds shape]
    exact turn_mute holds on (List.nodup_cons.mp nodup).1
  | muteShort on =>
    refine ⟨_, readAll_single ?_, holds_readerFor⟩
    have shape : Argument.ofChars "-m".toList = .cluster ['m'] := rfl
    rw [read_cluster holds shape]
    exact congrArg (· >>= fun reader => reader.readCluster [])
      (turn_mute holds on (List.nodup_cons.mp nodup).1)
  | inclusive on =>
    refine ⟨_, readAll_single ?_, holds_readerFor⟩
    have shape : Argument.ofChars "--inclusive-load-store".toList =
      .long "inclusive-load-store".toList none := rfl
    rw [read_long holds shape]
    exact turn_inclusive holds on (List.nodup_cons.mp nodup).1

private theorem readAll_append (reader : Reader) (line arguments : List String) :
    reader.readAll (line ++ arguments) =
      (reader.readAll line >>= fun reader => reader.readAll arguments) := by
  induction line generalizing reader with
  | nil => rfl
  | cons argument rest ih =>
    rw [List.cons_append, Reader.readAll, Reader.readAll]
    cases reader.read argument with
    | error refusal => rfl
    | ok after => exact ih after

/-- Reading choices one after the other leads to a reader that holds them all. -/
private theorem read_lists (speed : 1 ≤ options.speed ∧ options.speed ≤ maxSpeed)
    {line : List String} (lists : Lists options choices line) (nodup : choices.Nodup) :
    ∃ after, ({} : Reader).readAll line = .ok after ∧ Holds options choices after := by
  -- By how the line was put together: what is pending after one piece is put in by the next.
  induction lists with
  | nothing => exact ⟨{}, rfl, by simp [Holds, Reader.settle, readerFor, givenFor]⟩
  | @more earlier choices line arguments before spells ih =>
    obtain ⟨between, first, held⟩ := ih (List.nodup_append.mp nodup).2.1
    obtain ⟨after, second, held⟩ := read_spells speed spells held nodup
    refine ⟨after, ?_, held⟩
    rw [readAll_append, first, ok_bind, second]

/-- After two dashes the program may have any name. -/
private theorem read_states (speed : 1 ≤ options.speed ∧ options.speed ≤ maxSpeed)
    {arguments : List String} (states : States options choices arguments)
    (nodup : choices.Nodup) :
    ∃ after textOnly, ({} : Reader).readAll arguments = .ok after ∧
      Holds options choices after textOnly := by
  have dashes {reader : Reader} (plain : reader.textOnly = false) :
      reader.read "--" = .ok { reader with textOnly := true } := by
    rw [Reader.read, plain]
    rfl
  cases states with
  | plain lists =>
    obtain ⟨after, read, held⟩ := read_lists speed lists nodup
    exact ⟨after, false, read, held⟩
  | @ended choices line lists =>
    obtain ⟨before, read, held⟩ := read_lists speed lists nodup
    refine ⟨_, true, ?_, settle_textOnly held⟩
    rw [readAll_append, read, ok_bind]
    exact readAll_single (dashes (textOnly_of_holds held))
  | @program choices line lists named =>
    obtain ⟨new, rest⟩ := List.nodup_cons.mp nodup
    obtain ⟨before, read, held⟩ := read_lists speed lists rest
    have closed : Holds options choices { before with textOnly := true } true :=
      settle_textOnly held
    obtain ⟨after, text, ended⟩ := read_program closed named new
    refine ⟨after, true, ?_, ended⟩
    rw [readAll_append, read, ok_bind, Reader.readAll, dashes (textOnly_of_holds held), ok_bind]
    exact readAll_single text

/-- What some choices say is complete once all others are as usual. -/
private theorem complete_givenFor (usual : ∀ choice, choice ∉ choices → options.Usual choice) :
    (options.givenFor choices).complete = .ok options := by
  have named : .program ∈ choices := Decidable.not_not.mp (usual .program)
  have pick {α : Type} {value default : α} {choice : Choice}
      (left : choice ∉ choices → value = default) :
      (if choice ∈ choices then some value else none).getD default = value := by
    by_cases stated : choice ∈ choices
    · rw [if_pos stated]
      rfl
    · rw [if_neg stated, left stated]
      rfl
  have keep {α : Type} {value : Option α} {choice : Choice}
      (left : choice ∉ choices → value = none) :
      (if choice ∈ choices then value else none) = value := by
    by_cases stated : choice ∈ choices
    · rw [if_pos stated]
    · rw [if_neg stated, left stated]
  have flag {value : Bool} {choice : Choice} (left : choice ∉ choices → value = false) :
      (decide (choice ∈ choices) && value) = value := by
    by_cases stated : choice ∈ choices
    · simp [stated]
    · simp [left stated]
  simp only [Given.complete, givenFor, if_pos named, pick (usual (.setting .speed)),
    pick (usual (.setting .fps)), pick (usual (.setting .tone)), keep (usual (.setting .seed)),
    keep (usual (.setting .frames)), flag (usual .mute), flag (usual .inclusive)]

/-- A command line written for some options is read as those options. -/
theorem ofArguments_of_writtenAs (speed : 1 ≤ options.speed ∧ options.speed ≤ maxSpeed)
    {arguments : List String} (written : options.WrittenAs arguments) :
    ofArguments arguments = .ok options := by
  obtain ⟨choices, states, nodup, usual⟩ := written
  obtain ⟨after, textOnly, read, held⟩ := read_states speed states nodup
  rw [ofArguments, read, ok_bind, held, ok_bind]
  exact complete_givenFor usual

/-- What checking makes of options: they pass where the rate has a value above 0 and at most 1000,
which infinities and not-a-numbers have not, and nothing but the rate is ever refused. -/
structure Checks (options : Options) : Prop where
  passes : options.check = .ok () ↔
    ∃ rate, options.rate.value? = some rate ∧ 0 < rate ∧ rate ≤ 1000
  refuses (reason : Invalid) (refused : options.check = .error reason) :
    reason = .rate options.rate

private theorem checks_of_accepted {arguments : List String}
    (accepted : ofArguments arguments = .ok options) : options.Checks := by
  have valued : options.rate.InRange maxRate ↔
      ∃ rate, options.rate.value? = some rate ∧ 0 < rate ∧ rate ≤ 1000 :=
    options.rate.inRange_iff maxRate
  by_cases within : options.rate.InRange maxRate
  · have passed := check_of_accepted accepted within
    refine ⟨⟨fun _ => valued.mp within, fun _ => passed⟩, ?_⟩
    intro reason refused
    rw [passed] at refused
    cases refused
  · have refused : options.check = .error (.rate options.rate) := if_pos within
    refine ⟨⟨?_, fun value => absurd (valued.mpr value) within⟩, ?_⟩
    · intro passed
      rw [passed] at refused
      cases refused
    · intro reason other
      rw [refused] at other
      cases other
      rfl

/-- Options survive the command line. However they are written, in whatever order, reading gives
them back; and whatever is read asks for a number of instructions that is allowed, so that checking
only ever finds fault with the rate. -/
theorem options_survive :
    (∀ (options : Options) (arguments : List String),
      1 ≤ options.speed ∧ options.speed ≤ 1000 → options.WrittenAs arguments →
        ofArguments arguments = .ok options) ∧
    ∀ (arguments : List String) (options : Options), ofArguments arguments = .ok options →
      (1 ≤ options.speed ∧ options.speed ≤ 1000) ∧ options.Checks := by
  refine ⟨fun _ _ speed written => ofArguments_of_writtenAs speed written, ?_⟩
  intro arguments options accepted
  exact ⟨speed_of_accepted accepted, checks_of_accepted accepted⟩

def utmost : Options where
  speed := 1000
  rate := ⟨0x408f400000000000⟩
  tone := 65535
  seed := some 18446744073709551615
  inclusive := true
  rom := "game.ch8"
  mute := true

/-- A command line for them, which leaves out when to stop. -/
def utmostLine : List String :=
  ["--tone", "65535", "--fps=1e3", "game.ch8", "-ms=0001000", "--seed", "+18446744073709551615",
    "--inclusive-load-store"]

private theorem writtenAs_utmost : utmost.WrittenAs utmostLine := by
  have tone : utmost.Conveys .tone "65535" := numeral_toString 65535
  have fps : utmost.Conveys .fps "1e3" := by
    change Binary64.read? "1e3" = some ⟨0x408f400000000000⟩
    decide +kernel
  have speed : utmost.Conveys .speed "0001000" := .plain (by decide +kernel)
  have seed : utmost.Conveys .seed "+18446744073709551615" :=
    ⟨18446744073709551615, rfl, .plus (by decide +kernel)⟩
  have before : Lists utmost [.program, .setting .fps, .setting .tone]
      ["--tone", "65535", "--fps=1e3", "game.ch8"] :=
    ((Lists.nothing.more (.long tone (by decide))).more (.longEqual fps)).more
      (.program (by decide) (by decide))
  have lists : Lists utmost [.inclusive, .setting .seed, .setting .speed, .mute, .program,
      .setting .fps, .setting .tone] utmostLine :=
    ((before.more (.shortEqual (.muteSpeed rfl) speed)).more (.long seed (by decide))).more
      (.inclusive rfl)
  refine ⟨_, .plain lists, by decide, ?_⟩
  intro choice left
  have frames : choice = .setting .frames := by
    revert left
    cases choice with
    | program => decide
    | setting setting => cases setting <;> decide
    | mute => decide
    | inclusive => decide
  subst frames
  exact rfl

theorem utmost_survive :
    utmost.WrittenAs utmostLine ∧ ofArguments utmostLine = .ok utmost ∧
      ∃ rate, utmost.rate.value? = some rate ∧ 0 < rate ∧ rate ≤ 1000 := by
  have accepted := options_survive.1 utmost utmostLine (by decide) writtenAs_utmost
  obtain ⟨_, checks⟩ := options_survive.2 utmostLine utmost accepted
  exact ⟨writtenAs_utmost, accepted, checks.passes.mp (by decide +kernel)⟩

end Chip8.Options
