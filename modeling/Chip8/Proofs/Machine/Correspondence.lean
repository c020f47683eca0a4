import Chip8.Proofs.Journal.Errors
import Chip8.Proofs.Machine.Halting

/-! Machines on devices of different types. Where the devices go together, in that they give the
same answers and still go together afterwards, so do the machines: nothing that a machine does
depends on its devices but through their answers. Instructions read neither the speaker nor the
journal, and of the settings only whether block transfers are inclusive; one of them alone reads a
timer. Cycles read more, and what they read has to go together too. -/
namespace Chip8

variable {δ κ τ δ' κ' τ' σ σ' α β : Type}

/-- Whether two outcomes have the same value or the same fault, and states that go together. -/
inductive Outcome.Alike (states : σ → σ' → Prop) : Outcome σ α → Outcome σ' α → Prop where
  | done (value : α) {state : σ} {state' : σ'} (alike : states state state') :
      Alike states (.done value state) (.done value state')
  | failed (fault : Fault) {state : σ} {state' : σ'} (alike : states state state') :
      Alike states (.failed fault state) (.failed fault state')

theorem Outcome.Alike.andThen {states : σ → σ' → Prop} {outcome : Outcome σ α}
    {outcome' : Outcome σ' α} {next : α → σ → Outcome σ β} {next' : α → σ' → Outcome σ' β}
    (first : Alike states outcome outcome')
    (later : ∀ value state state', states state state' →
      Alike states (next value state) (next' value state')) :
    Alike states (outcome.andThen next) (outcome'.andThen next') := by
  cases first with
  | done value alike => exact later value _ _ alike
  | failed fault alike => exact .failed fault alike

theorem Outcome.Alike.map {states : σ → σ' → Prop} {outcome : Outcome σ α}
    {outcome' : Outcome σ' α} (alike : Alike states outcome outcome') (f : α → β) :
    Alike states (outcome.map f) (outcome'.map f) := by
  cases alike with
  | done value alike => exact .done (f value) alike
  | failed fault alike => exact .failed fault alike

theorem Outcome.Alike.result {states : σ → σ' → Prop} {outcome : Outcome σ α}
    {outcome' : Outcome σ' α} (alike : Alike states outcome outcome') :
    outcome.result = outcome'.result := by
  cases alike <;> rfl

theorem Outcome.Alike.state {states : σ → σ' → Prop} {outcome : Outcome σ α}
    {outcome' : Outcome σ' α} (alike : Alike states outcome outcome') :
    states outcome.state outcome'.state := by
  cases alike <;> assumption

/-- Whether two replies give the same answer and leave devices that go together, and journals that
go together still do when they have taken the events. -/
structure Reply.Alike (devices : σ → σ' → Prop) (journals : Journal → Journal → Prop)
    (reply : Reply σ α) (reply' : Reply σ' α) : Prop where
  answer : reply.answer = reply'.answer
  device : devices reply.device reply'.device
  events {journal journal' : Journal} (alike : journals journal journal') :
    journals (journal.recordAll reply.events) (journal'.recordAll reply'.events)

/-- Journals are left out of account. -/
def anyJournals (_ _ : Journal) : Prop := True

theorem Reply.Alike.of_eq {reply reply' : Reply σ α} (same : reply = reply') :
    reply.Alike Eq anyJournals reply' := by
  rw [same]
  exact ⟨rfl, rfl, fun _ => trivial⟩

section SameDevices

variable [Screen δ] [Keypad κ]

theorem clear_of_eq {screen screen' : δ} (same : screen = screen') :
    Screen.clear screen = Screen.clear screen' :=
  congrArg Screen.clear same

theorem toggle_of_eq {screen screen' : δ} (x y : Nat) (same : screen = screen') :
    (Screen.toggle screen x y).Alike Eq anyJournals (Screen.toggle screen' x y) :=
  .of_eq (congrArg (Screen.toggle · x y) same)

theorem isPressed_of_eq {keypad keypad' : κ} (key : Key) (same : keypad = keypad') :
    (Keypad.isPressed keypad key).Alike Eq anyJournals (Keypad.isPressed keypad' key) :=
  .of_eq (congrArg (Keypad.isPressed · key) same)

theorem takePress_of_eq {keypad keypad' : κ} (same : keypad = keypad') :
    (Keypad.takePress keypad).Alike Eq anyJournals (Keypad.takePress keypad') :=
  .of_eq (congrArg Keypad.takePress same)

theorem discardPresses_of_eq {keypad keypad' : κ} (same : keypad = keypad') :
    (Keypad.discardPresses keypad).Alike Eq anyJournals (Keypad.discardPresses keypad') :=
  .of_eq (congrArg Keypad.discardPresses same)

end SameDevices

/-- Which devices, timers, settings and journals of machines of two types go together. A speaker
comes with what is remembered of its failure. Journals need not agree on the errors: whether they
do when a machine halts is for the user to say. -/
structure Correspondence (δ κ τ δ' κ' τ' : Type) [Screen δ] [Keypad κ] [Screen δ'] [Keypad κ'] where
  screens : δ → δ' → Prop
  keypads : κ → κ' → Prop
  speakers : τ → Bool → τ' → Bool → Prop
  timers : UInt8 → UInt8 → Prop
  settings : Settings → Settings → Prop
  journals : Journal → Journal → Prop
  timer (timer : UInt8) : timers timer timer
  inclusive {other other' : Settings} : settings other other' → other.inclusive = other'.inclusive
  record {journal journal' : Journal} (event : Event) (minor : event.isMinor) :
    journals journal journal' → journals (journal.record event) (journal'.record event)
  clear {screen : δ} {screen' : δ'} : screens screen screen' →
    screens (Screen.clear screen) (Screen.clear screen')
  toggle {screen : δ} {screen' : δ'} (x y : Nat) : screens screen screen' →
    (Screen.toggle screen x y).Alike screens journals (Screen.toggle screen' x y)
  isPressed {keypad : κ} {keypad' : κ'} (key : Key) : keypads keypad keypad' →
    (Keypad.isPressed keypad key).Alike keypads journals (Keypad.isPressed keypad' key)
  takePress {keypad : κ} {keypad' : κ'} : keypads keypad keypad' →
    (Keypad.takePress keypad).Alike keypads journals (Keypad.takePress keypad')
  discardPresses {keypad : κ} {keypad' : κ'} : keypads keypad keypad' →
    (Keypad.discardPresses keypad).Alike keypads journals (Keypad.discardPresses keypad')

variable [Screen δ] [Keypad κ] [Screen δ'] [Keypad κ']

/-- Whether two machines agree in all that instructions work on, up to what goes together. -/
inductive Correspondence.Alike (c : Correspondence δ κ τ δ' κ' τ') :
    Machine δ κ τ → Machine δ' κ' τ' → Prop where
  | intro (memory : Memory) (v : Vector UInt8 16) (i pc : UInt16) (stack : List UInt16)
      (mode : Mode) (random : RandomStream) {delay delay' sound sound' : UInt8}
      {screen : δ} {screen' : δ'} {keypad : κ} {keypad' : κ'} {speaker : τ} {speaker' : τ'}
      {toneLost toneLost' : Bool} {settings settings' : Settings} {journal journal' : Journal}
      (delays : c.timers delay delay') (sounds : c.timers sound sound')
      (screens : c.screens screen screen') (keypads : c.keypads keypad keypad')
      (speakers : c.speakers speaker toneLost speaker' toneLost')
      (similar : c.settings settings settings') (journals : c.journals journal journal') :
      Alike c
        ⟨⟨memory, v, i, pc, stack, delay, sound, mode, random⟩, screen, keypad, speaker, settings,
          toneLost, journal⟩
        ⟨⟨memory, v, i, pc, stack, delay', sound', mode, random⟩, screen', keypad', speaker',
          settings', toneLost', journal'⟩

namespace Correspondence

variable {c : Correspondence δ κ τ δ' κ' τ'} {m : Machine δ κ τ} {m' : Machine δ' κ' τ'}

namespace Alike

theorem mode (alike : c.Alike m m') : m.mode = m'.mode := by
  cases alike
  rfl

theorem fetch (alike : c.Alike m m') : m.fetch = m'.fetch := by
  cases alike
  rfl

theorem screens (alike : c.Alike m m') : c.screens m.screen m'.screen := by
  cases alike
  assumption

theorem keypads (alike : c.Alike m m') : c.keypads m.keypad m'.keypad := by
  cases alike
  assumption

theorem settings (alike : c.Alike m m') : c.settings m.settings m'.settings := by
  cases alike
  assumption

theorem journals (alike : c.Alike m m') : c.journals m.journal m'.journal := by
  cases alike
  assumption

theorem note (alike : c.Alike m m') {event : Event} (minor : event.isMinor) :
    c.Alike (m.note event) (m'.note event) := by
  have noted := c.record event minor alike.journals
  cases alike
  constructor <;> assumption

private theorem afterScreen (alike : c.Alike m m') {reply : Reply δ α} {reply' : Reply δ' α}
    (replies : reply.Alike c.screens c.journals reply') :
    c.Alike (m.afterScreen reply) (m'.afterScreen reply') := by
  have reported := replies.events alike.journals
  have left := replies.device
  cases alike
  constructor <;> assumption

theorem afterKeypad (alike : c.Alike m m') {reply : Reply κ α} {reply' : Reply κ' α}
    (replies : reply.Alike c.keypads c.journals reply') :
    c.Alike (m.afterKeypad reply) (m'.afterKeypad reply') := by
  have reported := replies.events alike.journals
  have left := replies.device
  cases alike
  constructor <;> assumption

private theorem transferCount (alike : c.Alike m m') (x : Register) :
    m.transferCount x = m'.transferCount x := by
  simp only [Machine.transferCount, c.inclusive alike.settings]

private theorem skipWhen (alike : c.Alike m m') (condition : Bool) :
    c.Alike (m.skipWhen condition) (m'.skipWhen condition) := by
  cases alike
  cases condition <;> constructor <;> assumption

end Alike

/-- Whether two outcomes are those of machines that go together. -/
abbrev Outcomes (c : Correspondence δ κ τ δ' κ' τ') :
    Outcome (Machine δ κ τ) α → Outcome (Machine δ' κ' τ') α → Prop :=
  Outcome.Alike c.Alike

/-- What drawing a sprite comes to, as the reply of a screen. -/
private def replyOfDrawn (drawn : Sprite.Drawn δ) : Reply δ Bool :=
  ⟨drawn.collision, drawn.screen, drawn.events⟩

private theorem alike_drawCell (left top : Nat) (cell : Nat × Nat) {drawn : Sprite.Drawn δ}
    {drawn' : Sprite.Drawn δ'}
    (alike : (replyOfDrawn drawn).Alike c.screens c.journals (replyOfDrawn drawn')) :
    (replyOfDrawn (Sprite.drawCell left top drawn cell)).Alike c.screens c.journals
      (replyOfDrawn (Sprite.drawCell left top drawn' cell)) := by
  have toggled := c.toggle (left + cell.1) (top + cell.2) alike.device
  refine ⟨?_, toggled.device, ?_⟩
  · have collision : drawn.collision = drawn'.collision := alike.answer
    have lit : (Screen.toggle drawn.screen (left + cell.1) (top + cell.2)).answer =
        (Screen.toggle drawn'.screen (left + cell.1) (top + cell.2)).answer := toggled.answer
    simp only [replyOfDrawn, Sprite.drawCell, collision, lit]
  · intro journal journal' journals
    have reported := toggled.events (alike.events journals)
    simp only [Journal.recordAll, replyOfDrawn, Sprite.drawCell, List.foldl_append] at reported ⊢
    exact reported

private theorem alike_draw (left top : Nat) (rows : List UInt8) {screen : δ} {screen' : δ'}
    (screens : c.screens screen screen') :
    (replyOfDrawn (Sprite.draw screen left top rows)).Alike c.screens c.journals
      (replyOfDrawn (Sprite.draw screen' left top rows)) := by
  -- The induction is over the pixels; what has been drawn so far is a reply like any other.
  have cells : ∀ (places : List (Nat × Nat)) (drawn : Sprite.Drawn δ) (drawn' : Sprite.Drawn δ'),
      (replyOfDrawn drawn).Alike c.screens c.journals (replyOfDrawn drawn') →
      (replyOfDrawn (places.foldl (Sprite.drawCell left top) drawn)).Alike c.screens c.journals
        (replyOfDrawn (places.foldl (Sprite.drawCell left top) drawn')) := by
    intro places
    induction places with
    | nil => exact fun _ _ alike => alike
    | cons cell rest ih => exact fun _ _ alike => ih _ _ (alike_drawCell left top cell alike)
  exact cells _ _ _ ⟨rfl, screens, fun journals => journals⟩

namespace Alike

private theorem stored (alike : c.Alike m m') (written : Except Fault Memory) :
    c.Outcomes (m.stored written) (m'.stored written) := by
  cases written with
  | error fault => exact .failed fault alike
  | ok memory =>
    cases alike
    exact .done () (by constructor <;> assumption)

private theorem call (alike : c.Alike m m') (target : Address) :
    c.Outcomes (m.call target) (m'.call target) := by
  have same := alike
  cases alike
  unfold Machine.call
  split
  · exact .failed _ same
  · exact .done () (.note (by constructor <;> assumption) rfl)

private theorem ret (alike : c.Alike m m') : c.Outcomes m.ret m'.ret := by
  have same := alike
  cases alike
  simp only [Machine.ret]
  split
  · exact .failed _ same
  · exact .done () (.note (by constructor <;> assumption) rfl)

private theorem draw (alike : c.Alike m m') (x y : Register) (n : Nat) :
    c.Outcomes (m.draw x y n) (m'.draw x y n) := by
  have same := alike
  cases alike with
  | intro memory v i pc stack mode random delays sounds screens keypads speakers similar journals =>
    simp only [Machine.draw]
    split
    · exact .failed _ same
    · rename_i rows _
      have drawn := alike_draw (v.get x).toNat (v.get y).toNat rows screens
      have collision : (Sprite.draw _ (v.get x).toNat (v.get y).toNat rows).collision =
        (Sprite.draw _ (v.get x).toNat (v.get y).toNat rows).collision := drawn.answer
      have shown := drawn.device
      have reported := drawn.events journals
      rw [collision]
      exact .done () (by constructor <;> assumption)

private theorem skipOnKey (alike : c.Alike m m') (x : Register) (down : Bool) :
    c.Outcomes (m.skipOnKey x down) (m'.skipOnKey x down) := by
  have registers : m.v = m'.v := by
    cases alike
    rfl
  simp only [Machine.skipOnKey, registers]
  split
  · exact .done () (alike.skipWhen _)
  · have replies := c.isPressed (keyOfByte (m'.v.get x)) alike.keypads
    have asked := alike.afterKeypad replies
    rw [replies.answer]
    split
    · exact .failed _ asked
    · exact .done () (asked.skipWhen _)

private theorem waitKey (alike : c.Alike m m') (x : Register) :
    c.Outcomes (m.waitKey x) (m'.waitKey x) := by
  have replies := c.discardPresses alike.keypads
  have asked := alike.afterKeypad replies
  have noted := asked.note (show (Event.waiting x).isMinor from rfl)
  simp only [Machine.waitKey, replies.answer]
  split
  · exact .failed _ asked
  · cases alike
    cases noted
    exact .done () (by constructor <;> assumption)

private theorem loadRegs (alike : c.Alike m m') (x : Register) :
    c.Outcomes (m.execute (.loadRegs x)) (m'.execute (.loadRegs x)) := by
  have same := alike
  have count := alike.transferCount x
  cases alike with
  | intro memory v i =>
    simp only [Machine.execute, count]
    cases memory.slice i (Machine.transferCount _ x) with
    | error fault => exact .failed fault same
    | ok bytes => exact .done () (by constructor <;> assumption)

/-- An instruction does the same to machines that go together. The one that reads the delay timer
does so if this timer is the same. -/
theorem execute (alike : c.Alike m m') (instruction : Instruction)
    (timed : ∀ x, instruction = .loadDelay x → m.delay = m'.delay) :
    c.Outcomes (m.execute instruction) (m'.execute instruction) := by
  cases instruction with
  | sys nnn => exact .done () (alike.note rfl)
  | ret => exact alike.ret
  | call nnn => exact alike.call nnn
  | draw x y n => exact alike.draw x y n.val
  | skipKeyPressed x | skipKeyNotPressed x => exact alike.skipOnKey x _
  | waitKey x => exact alike.waitKey x
  | loadRegs x => exact alike.loadRegs x
  | skipEqImm x kk | skipNeImm x kk | skipEqReg x y | skipNeReg x y =>
    have same := alike
    cases alike
    exact .done () (same.skipWhen _)
  | storeBcd x =>
    have same := alike
    cases alike
    exact same.stored _
  | storeRegs x =>
    have same := alike
    have count := alike.transferCount x
    cases alike
    simp only [Machine.execute, count]
    exact same.stored _
  | clearScreen =>
    have cleared := c.clear alike.screens
    cases alike
    exact .done () (by constructor <;> assumption)
  | setDelay x | setSound x =>
    have set := c.timer (m.v.get x)
    cases alike
    exact .done () (by constructor <;> assumption)
  | loadDelay x =>
    have delay := timed x rfl
    cases alike
    cases delay
    exact .done () (by constructor <;> assumption)
  | _ =>
    cases alike
    exact .done () (by constructor <;> assumption)

theorem fetchAndExecute (alike : c.Alike m m')
    (timed : ∀ word x, m'.fetch = .ok (word, .loadDelay x) → m.delay = m'.delay) :
    c.Outcomes m.fetchAndExecute m'.fetchAndExecute := by
  rw [Machine.fetchAndExecute_eq, Machine.fetchAndExecute_eq, alike.fetch]
  cases found : m'.fetch with
  | error fault => exact .failed fault alike
  | ok fetched =>
    obtain ⟨word, instruction⟩ := fetched
    have passed : c.Alike (m.past word instruction) (m'.past word instruction) := by
      have noted := c.record (.executing m.pc word instruction) rfl alike.journals
      cases alike
      constructor <;> assumption
    apply passed.execute instruction
    rintro x rfl
    exact timed word x found

theorem pressKey (alike : c.Alike m m') (key : UInt8) :
    (m.pressKey key).1 = (m'.pressKey key).1 ∧
      c.Alike (m.pressKey key).2 (m'.pressKey key).2 := by
  have same := alike
  cases alike with
  | intro memory v i pc stack mode random delays sounds screens keypads speakers similar journals =>
    simp only [Machine.pressKey]
    split
    · exact ⟨rfl, same.note rfl⟩
    · cases mode with
      | awaiting x =>
        have noted := c.record (.keyDelivered key x) rfl journals
        exact ⟨rfl, .intro _ _ _ _ _ _ _ delays sounds screens keypads speakers similar noted⟩
      | running | halted => exact ⟨rfl, same⟩

theorem pollKey (alike : c.Alike m m') : c.Outcomes m.pollKey m'.pollKey := by
  simp only [Machine.pollKey, alike.mode]
  split
  · exact .failed _ alike
  · exact .done () alike
  · have replies := c.takePress alike.keypads
    have asked := alike.afterKeypad replies
    rw [replies.answer]
    split
    · exact .failed _ asked
    · exact .done () asked
    · exact .done () (asked.pressKey _).2

section Guarded

-- What halts a machine is written into its journal as an error, so that halted machines go
-- together is certain only where journals are left out of account.
variable (unread : c.journals = anyJournals)

include unread

theorem halt (alike : c.Alike m m') (fault : Fault) : c.Alike (m.halt fault) (m'.halt fault) := by
  have any (journal journal' : Journal) : c.journals journal journal' := by
    rw [unread]
    trivial
  have written := any (m.halt fault).journal (m'.halt fault).journal
  rw [m.halt_eq, m'.halt_eq]
  cases alike
  constructor <;> assumption

theorem guarded {outcome : Outcome (Machine δ κ τ) α} {outcome' : Outcome (Machine δ' κ' τ') α}
    (outcomes : c.Outcomes outcome outcome') :
    c.Outcomes (Machine.guarded outcome) (Machine.guarded outcome') := by
  cases outcomes with
  | done value alike => exact .done value alike
  | failed fault alike => exact .failed fault (alike.halt unread fault)

theorem step (alike : c.Alike m m')
    (timed : ∀ word x, m'.fetch = .ok (word, .loadDelay x) → m.delay = m'.delay) :
    c.Outcomes m.step m'.step := by
  simp only [Machine.step, alike.mode]
  split
  · exact .failed _ alike
  · exact .done () alike
  · exact guarded unread (alike.fetchAndExecute timed)

end Guarded

end Alike

/-- Whether machines that go together go through their cycles together. -/
structure InStep [Speaker τ] [Speaker τ'] (c : Correspondence δ κ τ δ' κ' τ') : Prop where
  timers {timer timer' : UInt8} : c.timers timer timer' → timer = timer'
  speed {settings settings' : Settings} : c.settings settings settings' →
    settings.speed = settings'.speed
  render {screen : δ} {screen' : δ'} : c.screens screen screen' →
    (Screen.render screen).Alike c.screens c.journals (Screen.render screen')
  driveSpeaker {m : Machine δ κ τ} {m' : Machine δ' κ' τ'} : c.Alike m m' →
    c.Alike m.driveSpeaker m'.driveSpeaker

namespace InStep

variable [Speaker τ] [Speaker τ'] (inStep : c.InStep)

include inStep

theorem toCore (alike : c.Alike m m') : m.toCore = m'.toCore := by
  cases alike with
  | intro memory v i pc stack mode random delays sounds =>
    rw [inStep.timers delays, inStep.timers sounds]

private theorem delay (alike : c.Alike m m') : m.delay = m'.delay :=
  congrArg Core.delay (inStep.toCore alike)

private theorem batch (alike : c.Alike m m') (count : Nat) :
    c.Outcomes (m.batch count) (m'.batch count) := by
  induction count generalizing m m' with
  | zero => exact .done () alike
  | succ count ih =>
    simp only [Machine.batch, alike.mode]
    split
    · have fetched := alike.fetchAndExecute fun _ _ _ => inStep.delay alike
      exact fetched.andThen fun _ _ _ alike => ih alike
    · exact .done () alike

theorem tick (alike : c.Alike m m') : c.Alike m.tick m'.tick := by
  cases alike with
  | intro memory v i pc stack mode random delays sounds =>
    cases inStep.timers delays
    cases inStep.timers sounds
    have ticked := c.timer
    constructor <;> first | assumption | exact ticked _

private theorem endCycle (alike : c.Alike m m') : c.Outcomes m.endCycle m'.endCycle := by
  have ticked : c.Alike m.tickWhenRunning m'.tickWhenRunning := by
    simp only [Machine.tickWhenRunning, alike.mode]
    split
    · exact inStep.tick alike
    · exact alike
  have driven := inStep.driveSpeaker ticked
  have replies := inStep.render driven.screens
  have shown := driven.afterScreen replies
  simp only [Machine.endCycle, Machine.render, replies.answer]
  split
  · exact .done () shown
  · exact .failed _ shown

theorem attempt (alike : c.Alike m m') : c.Outcomes m.attempt m'.attempt := by
  have batched : c.Outcomes (m.pollKey.andThen fun _ m => m.batch m.batchSize)
      (m'.pollKey.andThen fun _ m => m.batch m.batchSize) := by
    apply alike.pollKey.andThen
    intro _ polled polled' alike
    have size : polled.batchSize = polled'.batchSize := by
      simp only [Machine.batchSize, inStep.speed alike.settings]
    rw [size]
    exact inStep.batch alike _
  exact batched.andThen fun _ _ _ alike => inStep.endCycle alike

theorem cycle (unread : c.journals = anyJournals) (alike : c.Alike m m') :
    c.Outcomes m.cycle m'.cycle :=
  Alike.guarded unread (inStep.attempt alike)

theorem cycle_done {after' : Machine δ' κ' τ'} (alike : c.Alike m m')
    (done : m'.cycle = .done () after') :
    ∃ after, m.cycle = .done () after ∧ c.Alike after after' := by
  have attempts := inStep.attempt alike
  rw [Machine.cycle_eq_guarded] at done ⊢
  cases outcome' : m'.attempt with
  | failed fault left' =>
    rw [outcome'] at done
    cases done
  | done value reached' =>
    rw [outcome'] at done attempts
    cases done
    generalize m.attempt = outcome at attempts ⊢
    cases attempts with
    | done _ alike => exact ⟨_, rfl, alike⟩

/-- Both machines are halted by the same fault, in states that still went together. -/
theorem cycle_failed {stopped' : Machine δ' κ' τ'} {fault : Fault} (alike : c.Alike m m')
    (awake : m'.mode ≠ .halted) (failed : m'.cycle = .failed fault stopped') :
    ∃ left left', m.cycle = .failed fault (left.halt fault) ∧ stopped' = left'.halt fault ∧
      c.Alike left left' ∧ left.mode ≠ .halted := by
  have attempts := inStep.attempt alike
  have proceeds := Machine.proceeds_attempt awake
  rw [Machine.cycle_eq_guarded] at failed ⊢
  cases outcome' : m'.attempt with
  | done value reached' =>
    rw [outcome'] at failed
    cases failed
  | failed cause left' =>
    rw [outcome'] at failed attempts proceeds
    cases failed
    generalize m.attempt = outcome at attempts ⊢
    cases attempts with
    | failed _ alike => exact ⟨_, left', rfl, rfl, alike, by rw [alike.mode]; exact proceeds.2⟩

end InStep

theorem Alike.voiced (alike : c.Alike m m') {speaker : τ} {speaker' : τ'}
    {toneLost toneLost' : Bool} {journal journal' : Journal}
    (speakers : c.speakers speaker toneLost speaker' toneLost')
    (journals : c.journals journal journal') :
    c.Alike { m with speaker, toneLost, journal }
      { m' with speaker := speaker', toneLost := toneLost', journal := journal' } := by
  cases alike
  constructor <;> assumption

/-- Where the speaker is the same, so is what it is asked and what it replies. -/
theorem Alike.driveSpeaker_of_same [Speaker τ] {c : Correspondence δ κ τ δ' κ' τ}
    {m : Machine δ κ τ} {m' : Machine δ' κ' τ} (alike : c.Alike m m') (sound : m.sound = m'.sound)
    (tone : m.settings.tone = m'.settings.tone)
    (shared : ∀ {speaker toneLost speaker' toneLost'},
      c.speakers speaker toneLost speaker' toneLost' ↔ speaker = speaker' ∧ toneLost = toneLost')
    (play : ∀ hz {journal journal'}, c.journals journal journal' →
      c.journals (journal.recordAll (Speaker.play m.speaker hz).events)
        (journal'.recordAll (Speaker.play m.speaker hz).events))
    (stop : ∀ {journal journal'}, c.journals journal journal' →
      c.journals (journal.recordAll (Speaker.stop m.speaker).events)
        (journal'.recordAll (Speaker.stop m.speaker).events)) :
    c.Alike m.driveSpeaker m'.driveSpeaker := by
  obtain ⟨speaker, lost⟩ : m.speaker = m'.speaker ∧ m.toneLost = m'.toneLost := by
    cases alike
    exact shared.mp ‹_›
  have reported : c.journals (m.journal.recordAll (m.toneReply m.sound).events)
      (m'.journal.recordAll (m.toneReply m.sound).events) := by
    unfold Machine.toneReply
    split
    · exact play _ alike.journals
    · exact stop alike.journals
  have asked : (if 0 < m.sound then Speaker.play m.speaker m.settings.tone
      else Speaker.stop m.speaker) = m.toneReply m.sound := rfl
  simp only [Machine.driveSpeaker, ← speaker, ← sound, ← tone, ← lost, asked]
  split
  · exact alike
  · split
    · exact alike.voiced (shared.mpr ⟨rfl, lost⟩) reported
    · rename_i error _
      have noted := c.record (.toneLost error) rfl reported
      exact alike.voiced (shared.mpr ⟨rfl, rfl⟩) noted

end Correspondence

end Chip8
