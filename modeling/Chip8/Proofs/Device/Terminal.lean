import Chip8.Device.Terminal
import Chip8.Proofs.Device.Keyboard
import Chip8.Proofs.Journal.Errors
import Chip8.Proofs.Machine.Halting

namespace Chip8

section Screen

variable {grid : Grid} {κ τ : Type}

theorem TerminalScreen.shown_painted {before after : TerminalScreen grid}
    (painted : Painted before after) : after.shown = before.shown := by
  induction painted with
  | same => rfl
  | cleared _ ih => exact ih
  | inverted _ x y ih => exact ih

namespace Machine

section Batch

variable {δ : Type} [Keypad κ]

private theorem screen_pollKey (m : Machine δ κ τ) : m.pollKey.state.screen = m.screen := by
  unfold pollKey
  split
  · rfl
  · rfl
  · dsimp only
    split
    · rfl
    · rfl
    · simp only [finish, Outcome.state, pressKey]
      split
      · rfl
      · split <;> rfl

private theorem shown_batch (count : Nat) (m : Machine (TerminalScreen grid) κ τ) :
    (m.batch count).state.screen.shown = m.screen.shown := by
  induction count generalizing m with
  | zero => rfl
  | succ count ih =>
    have first := TerminalScreen.shown_painted (stepped_fetchAndExecute m).screen
    unfold batch
    split
    · cases outcome : m.fetchAndExecute with
      | done value after =>
        rw [outcome] at first
        exact (ih after).trans first
      | failed fault left =>
        rw [outcome] at first
        exact first
    · rfl

end Batch

variable [Keypad κ] [Speaker τ]

omit [Keypad κ] in
private theorem shown_endCycle (m : Machine (TerminalScreen grid) κ τ) :
    (guarded m.endCycle).Leaves (fun after => after.screen.shown = some after.screen.frame.picture)
      fun _ stopped => stopped.screen.shown = m.screen.shown := by
  have closed := closed_endCycle m
  have result := closed.result
  have screen := closed.screen
  generalize guarded m.endCycle = outcome at result screen
  cases failure : m.screen.renderFailure with
  | none =>
    simp only [Screen.render, failure] at result screen
    cases outcome with
    | failed fault stopped => cases result
    | done value after =>
      change after.screen.shown = _
      rw [show after.screen = _ from screen]
  | some error =>
    simp only [Screen.render, failure] at result screen
    cases outcome with
    | failed fault stopped => exact congrArg TerminalScreen.shown screen
    | done value after => cases result

/-- What a cycle leaves on the terminal: the picture as it then is, or what was there before if a
fault has cut the cycle. -/
theorem shown_cycle (m : Machine (TerminalScreen grid) κ τ) :
    m.cycle.Leaves (fun after => after.screen.shown = some after.screen.frame.picture)
      fun _ stopped => stopped.screen.shown = m.screen.shown := by
  have halted (left : Machine (TerminalScreen grid) κ τ) (fault : Fault)
      (still : left.screen.shown = m.screen.shown) :
      (left.halt fault).screen.shown = m.screen.shown := by
    rw [halt_eq]
    exact still
  have polled := congrArg TerminalScreen.shown (screen_pollKey m)
  unfold cycle
  cases poll : m.pollKey with
  | failed fault left =>
    rw [poll] at polled
    exact halted left fault polled
  | done value asked =>
    rw [poll] at polled
    have batched := (shown_batch asked.batchSize asked).trans polled
    rw [Outcome.andThen_done]
    cases batch : asked.batch asked.batchSize with
    | failed fault left =>
      rw [batch] at batched
      exact halted left fault batched
    | done value reached =>
      rw [batch] at batched
      have closed := shown_endCycle reached
      rw [Outcome.andThen_done]
      generalize guarded reached.endCycle = outcome at closed ⊢
      cases outcome with
      | done value after => exact closed
      | failed fault stopped => exact closed.trans batched

end Machine

end Screen

/-- Whether a report of the terminal stands for nothing: it is neither escape nor a key of the
keypad. -/
def TerminalEvent.isIdle (event : TerminalEvent) : Bool := event.key?.isNone && event != .escape

/-- Whether a look at the terminal succeeds and finds nothing that stands for anything. -/
def Look.isIdle (look : Look) : Bool :=
  match look.found with
  | .ok event => event.all TerminalEvent.isIdle
  | .error _ => false

namespace Keyboard

/-- A keyboard on which nothing is typed, from now on, that stands for anything. -/
structure Idle (keyboard : Keyboard) : Prop where
  looks : ∀ look ∈ keyboard.looks, look.isIdle
  held (key : Key) : keyboard.heldUntil.get key = none
  presses : keyboard.presses = []
  stays : keyboard.exit = false

private theorem minor_receive (keyboard : Keyboard) (report : TerminalEvent) :
    ∀ event ∈ (keyboard.receive report).2, event.isMinor := by
  intro event member
  cases report with
  | character c =>
    simp only [receive] at member
    split at member
    · cases member
    · cases List.mem_singleton.mp member
      rfl
  | escape | otherKey | other =>
    cases List.mem_singleton.mp member
    rfl

private theorem minor_lookOn (keyboard : Keyboard) (looks : List Look) :
    ∀ event ∈ (keyboard.lookOn looks).events, event.isMinor := by
  induction looks generalizing keyboard with
  | nil => nofun
  | cons look rest ih =>
    obtain ⟨elapsed, error | _ | report⟩ := look
    · nofun
    · nofun
    · intro event member
      rcases List.mem_append.mp member with here | later
      · exact minor_receive _ report event here
      · exact ih _ event later

/-- Nothing that a keyboard has to report is an error. -/
theorem minor_readTerminal (keyboard : Keyboard) :
    ∀ event ∈ keyboard.readTerminal.events, event.isMinor :=
  keyboard.minor_lookOn keyboard.looks

theorem minor_wantsExit (keyboard : Keyboard) :
    ∀ event ∈ (Keypad.wantsExit keyboard).events, event.isMinor := by
  intro event member
  simp only [Keypad.wantsExit] at member
  split at member
  · rcases List.mem_append.mp member with read | failed
    · exact keyboard.minor_readTerminal event read
    · cases List.mem_singleton.mp failed
      rfl
  · exact keyboard.minor_readTerminal event member

private theorem receive_of_idle (keyboard : Keyboard) {event : TerminalEvent}
    (idle : event.isIdle) : (keyboard.receive event).1 = keyboard := by
  simp only [TerminalEvent.isIdle, Bool.and_eq_true, Option.isNone_iff_eq_none, bne_iff_ne] at idle
  rw [receive_fst, idle.1]
  exact if_neg idle.2

/-- Looks that find nothing leave a keyboard at which nothing was typed, and do not fail. -/
private theorem lookOn_of_idle {keyboard : Keyboard} {looks : List Look} (idle : keyboard.Idle)
    (nothing : ∀ look ∈ looks, look.isIdle) :
    (keyboard.lookOn looks).answer = .ok () ∧ (keyboard.lookOn looks).device.Idle := by
  induction looks generalizing keyboard with
  | nil => exact ⟨rfl, nofun, idle.held, idle.presses, idle.stays⟩
  | cons look rest ih =>
    have later := fun other member => nothing other (List.mem_cons_of_mem look member)
    have first := nothing look List.mem_cons_self
    obtain ⟨elapsed, error | _ | report⟩ := look
    · cases first
    · exact ⟨rfl, later, idle.held, idle.presses, idle.stays⟩
    · have same := (keyboard.advance elapsed).receive_of_idle first
      have waited : (keyboard.advance elapsed).Idle :=
        ⟨idle.looks, idle.held, idle.presses, idle.stays⟩
      simp only [lookOn, same]
      exact ih waited later

theorem Idle.read {keyboard : Keyboard} (idle : keyboard.Idle) :
    keyboard.readTerminal.answer = .ok () ∧ keyboard.readTerminal.device.Idle :=
  lookOn_of_idle idle idle.looks

/-- Escape counts whatever else is typed before it or after. -/
theorem wantsExit_of_escape {looks : List Look}
    (escape : ∃ reading ∈ Look.heard 0 looks, reading.event = .escape) :
    (Keypad.wantsExit ({ looks } : Keyboard)).answer = true := by
  have faithful : Session.Faithful { keyboard := { looks } } := Session.faithful_new.looks looks
  rw [answer_wantsExit]
  exact faithful.readTerminal.exit.mpr escape

end Keyboard

end Chip8
