import Chip8.Proofs.Device.Scripted
import Chip8.Proofs.Machine.Correspondence
import Chip8.Proofs.Machine.Life

/-! A main loop and its cycles. It tests the limit first, then asks the keypad whether to leave, and
only then runs a cycle, so it runs the lesser of the two numbers of cycles that these allow and
stops at the first fault. Main loops in a row are one main loop. The screen is shown once in each
cycle that does not fail, and at no other time. -/
namespace Chip8

variable {δ κ τ σ α : Type}

/-- The cycles that a limit and a user who is asked `patience` times in vain allow. Nothing ends a
main loop without a limit if the user stays. -/
def cyclesAllowed : (frames : Option UInt64) → (patience : Option Nat) → Option Nat
  | none, patience => patience
  | some frames, none => some frames.toNat
  | some frames, some patience => some (min frames.toNat patience)

/-- Keypads that are told apart at most by asking whether the user wants to leave. -/
structure Interchangeable [Keypad κ] (keypads : κ → κ → Prop) : Prop where
  isPressed {keypad keypad' : κ} (key : Key) : keypads keypad keypad' →
    (Keypad.isPressed keypad key).Alike keypads anyJournals (Keypad.isPressed keypad' key)
  takePress {keypad keypad' : κ} : keypads keypad keypad' →
    (Keypad.takePress keypad).Alike keypads anyJournals (Keypad.takePress keypad')
  discardPresses {keypad keypad' : κ} : keypads keypad keypad' →
    (Keypad.discardPresses keypad).Alike keypads anyJournals (Keypad.discardPresses keypad')

/-- Keypads whose users are asked a number of times in vain before they want to leave; without a
number they stay. Where `left patience keypad unasked` holds, the first keypad has been asked down
to `patience`, and answers everything else as the second, which was not asked. -/
structure Countdown [Keypad κ] (left : Option Nat → κ → κ → Prop) : Prop where
  others (patience : Option Nat) : Interchangeable (left patience)
  stays {keypad unasked : κ} : left none keypad unasked →
    (Keypad.wantsExit keypad).answer = false ∧ left none (Keypad.wantsExit keypad).device unasked
  waits {patience : Nat} {keypad unasked : κ} : left (some (patience + 1)) keypad unasked →
    (Keypad.wantsExit keypad).answer = false ∧
      left (some patience) (Keypad.wantsExit keypad).device unasked
  leaves {keypad unasked : κ} : left (some 0) keypad unasked →
    (Keypad.wantsExit keypad).answer = true ∧ left (some 0) (Keypad.wantsExit keypad).device unasked

/-- A count of how often a screen was shown, whatever was done to it besides. -/
structure CountsShows [Screen δ] (shown : δ → Nat) : Prop where
  clear (screen : δ) : shown (Screen.clear screen) = shown screen
  toggle (screen : δ) (x y : Nat) : shown (Screen.toggle screen x y).device = shown screen
  render (screen : δ) : shown (Screen.render screen).device =
    shown screen + if (Screen.render screen).answer.isOk then 1 else 0

namespace Machine

/-- Whether two machines are the same but for the journal and the keypads, which go together. -/
structure SameButKeypad (keypads : κ → κ → Prop) (m m' : Machine δ κ τ) : Prop where
  core : m.toCore = m'.toCore
  screen : m.screen = m'.screen
  keypad : keypads m.keypad m'.keypad
  speaker : m.speaker = m'.speaker
  settings : m.settings = m'.settings
  toneLost : m.toneLost = m'.toneLost

/-- A main loop that finishes was asked to leave, or has run a cycle and finishes from there. -/
private theorem runFrom_done [Screen δ] [Keypad κ] [Speaker τ] {limit count total : Nat}
    {m after : Machine δ κ τ} (done : runFrom (limit + 1) count m = .done total after) :
    ((Keypad.wantsExit m.keypad).answer = true ∧ total = count ∧
        after = (m.afterKeypad (Keypad.wantsExit m.keypad)).note (.exitRequested count)) ∨
      ((Keypad.wantsExit m.keypad).answer = false ∧ ∃ next,
        (m.afterKeypad (Keypad.wantsExit m.keypad)).cycle = .done () next ∧
          runFrom limit (count + 1) next = .done total after) := by
  cases answer : (Keypad.wantsExit m.keypad).answer with
  | true =>
    simp only [runFrom, answer] at done
    cases done
    exact .inl ⟨rfl, rfl, rfl⟩
  | false =>
    simp only [runFrom, answer] at done
    cases outcome : (m.afterKeypad (Keypad.wantsExit m.keypad)).cycle with
    | failed fault stopped =>
      rw [outcome] at done
      cases done
    | done value next =>
      rw [outcome] at done
      exact .inr ⟨rfl, next, rfl, done⟩

end Machine

section Shows

variable [Screen δ] {shown : δ → Nat} (counts : CountsShows shown)

include counts

private theorem CountsShows.painted {before after : δ} (painted : Painted before after) :
    shown after = shown before := by
  induction painted with
  | same => rfl
  | cleared _ ih => rw [counts.clear, ih]
  | inverted _ x y ih => rw [counts.toggle, ih]

namespace Machine

variable [Keypad κ] [Speaker τ]

omit [Keypad κ] in
private theorem shown_closed {reached : Machine δ κ τ} {outcome : Outcome (Machine δ κ τ) Unit}
    (closed : Closed reached outcome) :
    shown outcome.state.screen =
      shown reached.screen + if outcome.result.isOk then 1 else 0 := by
  have answered : outcome.result.isOk = (Screen.render reached.screen).answer.isOk := by
    rw [closed.result]
    cases (Screen.render reached.screen).answer <;> rfl
  rw [closed.screen, answered, counts.render]

/-- A cycle shows the screen once if it does not fail, and else not at all. -/
private theorem shown_of_cycle (m : Machine δ κ τ) : shown m.cycle.state.screen =
    shown m.screen + if m.cycle.result.isOk then 1 else 0 := by
  have ends := m.cycle_ends
  generalize m.cycle = outcome at ends
  induction ends with
  | refused | unheard => rfl
  | faulted _ _ stepped => exact counts.painted stepped.screen
  | closed _ _ stepped closed =>
    rw [shown_closed counts closed, counts.painted stepped.screen]
  | @resumed m resumed _ key _ _ _ _ heard _ _ ih =>
    have pressed := stepped_pressKey (m.afterKeypad (Keypad.takePress m.keypad)) key
    rw [heard] at pressed
    rw [ih, counts.painted pressed.screen]
    rfl
  | waited _ _ _ _ closed =>
    rw [shown_closed counts closed]

private theorem shown_runFrom {limit count total : Nat} {m after : Machine δ κ τ}
    (done : runFrom limit count m = .done total after) :
    shown after.screen + count = shown m.screen + total := by
  induction limit generalizing count m with
  | zero =>
    cases done
    rfl
  | succ limit ih =>
    rcases runFrom_done done with ⟨_, rfl, rfl⟩ | ⟨_, next, cycle, rest⟩
    · rfl
    · have once := shown_of_cycle counts (m.afterKeypad (Keypad.wantsExit m.keypad))
      rw [cycle] at once
      have once : shown next.screen = shown m.screen + 1 := once
      have rest := ih rest
      omega

private theorem shown_life {starts : List (Machine δ κ τ)} {m last : Machine δ κ τ}
    (life : Life (fun m next => shown next.screen = shown m.screen) m starts last) :
    shown last.screen = shown m.screen + starts.countP (·.cycle.result.isOk) := by
  induction life with
  | still => rfl
  | aside change _ ih => rw [ih, change]
  | @cycled m _ starts _ ih =>
    rw [ih, shown_of_cycle counts, List.countP_cons, Nat.add_assoc, Nat.add_comm (ite _ _ _)]

end Machine

end Shows

section Loops

variable [Screen δ] [Keypad κ] [Speaker τ]

/-- Machines on keypads that are told apart at most by asking whether the user wants to leave. -/
def Interchangeable.swap {keypads : κ → κ → Prop} (others : Interchangeable keypads) (δ τ : Type)
    [Screen δ] : Correspondence δ κ τ δ κ τ where
  screens := Eq
  keypads := keypads
  speakers speaker toneLost speaker' toneLost' := speaker = speaker' ∧ toneLost = toneLost'
  timers := Eq
  settings := Eq
  journals := anyJournals
  timer _ := rfl
  inclusive same := congrArg Settings.inclusive same
  record _ _ _ := trivial
  clear := @clear_of_eq δ _
  toggle := @toggle_of_eq δ _
  isPressed := others.isPressed
  takePress := others.takePress
  discardPresses := others.discardPresses

namespace Machine

variable {keypads : κ → κ → Prop} {left : Option Nat → κ → κ → Prop} {m m' : Machine δ κ τ}

omit [Speaker τ] in
private theorem swap_iff (others : Interchangeable keypads) :
    (others.swap δ τ).Alike m m' ↔ m.SameButKeypad keypads m' := by
  constructor
  · intro alike
    cases alike with
    | intro memory v i pc stack mode random delays sounds screens keypads speakers similar =>
      exact ⟨by rw [delays, sounds], screens, keypads, speakers.1, similar, speakers.2⟩
  · rintro ⟨core, screen, keypad, speaker, settings, toneLost⟩
    cases m
    cases m'
    cases core
    exact .intro _ _ _ _ _ _ _ rfl rfl screen keypad ⟨speaker, toneLost⟩ settings trivial

private theorem inStep_swap (others : Interchangeable keypads) : (others.swap δ τ).InStep where
  timers same := same
  speed same := congrArg Settings.speed same
  render same := .of_eq (congrArg Screen.render same)
  driveSpeaker alike := by
    have same := (swap_iff others).mp alike
    exact alike.driveSpeaker_of_same (congrArg Core.sound same.core)
      (congrArg Settings.tone same.settings) Iff.rfl (fun _ _ _ _ => trivial) fun _ => trivial

private theorem SameButKeypad.cycle (same : m.SameButKeypad keypads m')
    (others : Interchangeable keypads) :
    Outcome.Alike (SameButKeypad keypads) m.cycle m'.cycle := by
  have cycles := (inStep_swap others).cycle rfl ((swap_iff others).mpr same)
  generalize m.cycle = outcome, m'.cycle = outcome' at cycles ⊢
  cases cycles with
  | done value alike => exact .done value ((swap_iff others).mp alike)
  | failed fault alike => exact .failed fault ((swap_iff others).mp alike)

private theorem runFrom_of_countdown (countdown : Countdown left) (limit count : Nat)
    {patience : Option Nat} (same : m.SameButKeypad (left patience) m') :
    ∃ remaining, Outcome.Alike (SameButKeypad (left remaining)) (runFrom limit count m)
      ((cycles (patience.elim limit (min limit)) m').map fun _ =>
        count + patience.elim limit (min limit)) := by
  induction limit generalizing count patience m m' with
  | zero =>
    have none : patience.elim 0 (min 0) = 0 := by cases patience <;> simp
    rw [none]
    exact ⟨patience, .done count same⟩
  | succ limit ih =>
    have next : ∀ patience, (Keypad.wantsExit m.keypad).answer = false →
        left patience (Keypad.wantsExit m.keypad).device m'.keypad →
        ∃ remaining, Outcome.Alike (SameButKeypad (left remaining)) (runFrom (limit + 1) count m)
          ((cycles (patience.elim limit (min limit) + 1) m').map fun _ =>
            count + (patience.elim limit (min limit) + 1)) := by
      intro patience answer asked
      have same : (m.afterKeypad (Keypad.wantsExit m.keypad)).SameButKeypad (left patience) m' :=
        { same with keypad := asked }
      have cycled := same.cycle (countdown.others patience)
      simp only [runFrom, cycles, answer]
      generalize (m.afterKeypad (Keypad.wantsExit m.keypad)).cycle = outcome at cycled ⊢
      generalize m'.cycle = outcome' at cycled ⊢
      cases cycled with
      | failed fault alike => exact ⟨patience, .failed fault alike⟩
      | done value alike =>
        obtain ⟨remaining, rest⟩ := ih (count + 1) alike
        refine ⟨remaining, ?_⟩
        rw [Nat.add_assoc, Nat.add_comm 1] at rest
        exact rest
    cases patience with
    | none =>
      obtain ⟨answer, asked⟩ := countdown.stays same.keypad
      exact next none answer asked
    | some patience =>
      cases patience with
      | zero =>
        obtain ⟨answer, asked⟩ := countdown.leaves same.keypad
        refine ⟨some 0, ?_⟩
        simp only [runFrom, answer]
        exact .done count { same with keypad := asked }
      | succ patience =>
        obtain ⟨answer, asked⟩ := countdown.waits same.keypad
        have least : min (limit + 1) (patience + 1) = min limit patience + 1 :=
          Nat.add_min_add_right limit patience 1
        rw [Option.elim_some, least]
        exact next (some patience) answer asked

private theorem interchangeable_eq : @Interchangeable κ _ Eq where
  isPressed := isPressed_of_eq
  takePress := takePress_of_eq
  discardPresses := discardPresses_of_eq

/-- Counting on from another number changes nothing but the count. -/
private theorem runFrom_shift (shift limit count : Nat) (same : m.SameButKeypad Eq m') :
    Outcome.Alike (SameButKeypad Eq) (runFrom limit (shift + count) m)
      ((runFrom limit count m').map (shift + ·)) := by
  induction limit generalizing count m m' with
  | zero => exact .done _ same
  | succ limit ih =>
    have asked : (m.afterKeypad (Keypad.wantsExit m'.keypad)).SameButKeypad Eq
        (m'.afterKeypad (Keypad.wantsExit m'.keypad)) := { same with keypad := rfl }
    have cycled := asked.cycle interchangeable_eq
    simp only [runFrom, same.keypad]
    split
    · exact .done _ { asked with }
    · generalize (m.afterKeypad (Keypad.wantsExit m'.keypad)).cycle = outcome at cycled ⊢
      generalize (m'.afterKeypad (Keypad.wantsExit m'.keypad)).cycle = outcome' at cycled ⊢
      cases cycled with
      | failed fault alike => exact .failed fault alike
      | done value alike => exact ih (count + 1) alike

/-- A main loop that ran as many cycles as its limit was going on when the limit stopped it. -/
private theorem runFrom_add {first second count : Nat} {m middle : Machine δ κ τ}
    (done : runFrom first count m = .done (count + first) middle) :
    runFrom (first + second) count m = runFrom second (count + first) middle := by
  induction first generalizing count m with
  | zero =>
    cases done
    rw [Nat.zero_add]
    rfl
  | succ first ih =>
    rcases runFrom_done done with ⟨_, stopped, _⟩ | ⟨stays, next, cycle, rest⟩
    · omega
    · rw [← Nat.add_assoc, Nat.add_right_comm] at rest
      have going := ih rest
      rw [Nat.add_right_comm] at going
      rw [Nat.succ_add, ← Nat.add_assoc, ← going]
      simp only [runFrom, stays, cycle]
      rfl

private theorem cyclesFrom_of_done {limit count total : Nat} {m after : Machine δ κ τ}
    (done : runFrom limit count m = .done total after) :
    count + (cyclesFrom limit m).length = total ∧
      ∀ start ∈ cyclesFrom limit m, start.cycle.result.isOk := by
  induction limit generalizing count m with
  | zero =>
    cases done
    exact ⟨rfl, List.forall_mem_nil _⟩
  | succ limit ih =>
    rcases runFrom_done done with ⟨leaves, rfl, _⟩ | ⟨stays, next, cycle, rest⟩
    · simp only [cyclesFrom, leaves]
      exact ⟨rfl, List.forall_mem_nil _⟩
    · obtain ⟨total, succeeded⟩ := ih rest
      have first : (m.afterKeypad (Keypad.wantsExit m.keypad)).cycle.result.isOk := by
        rw [cycle]
        rfl
      simp only [cyclesFrom, stays, cycle, Bool.false_eq_true, if_false]
      refine ⟨?_, List.forall_mem_cons.mpr ⟨first, succeeded⟩⟩
      rw [List.length_cons, ← total, Nat.add_assoc, Nat.add_comm 1]

private theorem cycleLimit_of_allowed {frames : Option UInt64} {patience : Option Nat}
    {count : UInt64} (allowed : cyclesAllowed frames patience = some count.toNat) :
    patience.elim (cycleLimit frames) (min (cycleLimit frames)) = count.toNat := by
  cases frames with
  | none =>
    have below : count.toNat ≤ UInt64.size := Nat.le_of_lt count.toNat_lt
    cases patience with
    | none => cases allowed
    | some patience =>
      cases allowed
      exact Nat.min_eq_right below
  | some frames => cases patience <;> exact Option.some.inj allowed

/-- What main loops come to. -/
structure LoopsCount (δ κ τ : Type) [Screen δ] [Keypad κ] [Speaker τ] : Prop where
  -- A main loop answers with the cycles that it is allowed and leaves what these leave, or it
  -- fails as the first of them that fails and leaves what that one leaves.
  allowed {left : Option Nat → κ → κ → Prop} (countdown : Countdown left) {m : Machine δ κ τ}
    {frames : Option UInt64} {patience : Option Nat} {count : UInt64}
    (patient : left patience m.keypad m.keypad)
    (allowed : cyclesAllowed frames patience = some count.toNat) :
    ∃ remaining, Outcome.Alike (SameButKeypad (left remaining)) (m.run frames)
      ((cycles count.toNat m).map fun _ => count.toNat)
  -- A main loop that answers with a number of cycles has run as many, and none of them failed.
  answers {m after : Machine δ κ τ} {frames : Option UInt64} {count : Nat}
    (done : m.run frames = .done count after) : (m.cyclesIn (.run frames)).length = count ∧
      ∀ start ∈ m.cyclesIn (.run frames), start.cycle.result.isOk
  -- It has shown the screen as often.
  shows {shown : δ → Nat} (counts : CountsShows shown) {m after : Machine δ κ τ}
    {frames : Option UInt64} {count : Nat} (done : m.run frames = .done count after) :
    shown after.screen = shown m.screen + count
  -- Two main loops, the first of them stopped by its limit, are one with the sum of the limits.
  adds {m middle : Machine δ κ τ} {first second both : UInt64}
    (done : m.run (some first) = .done first.toNat middle)
    (sum : both.toNat = first.toNat + second.toNat) :
    Outcome.Alike (SameButKeypad Eq) (m.run (some both))
      ((middle.run (some second)).map (first.toNat + ·))
  -- In any history the screen is shown as often as a cycle succeeds, by itself or in a main
  -- loop.
  lives {shown : δ → Nat} (counts : CountsShows shown) (m : Machine δ κ τ)
    {actions : List (Action δ κ τ)} (changed : ∀ change, .screen change ∈ actions →
      ∀ screen, shown (change screen) = shown screen) :
    shown (m.performAll actions).screen =
      shown m.screen + (m.cyclesOver actions).countP (·.cycle.result.isOk)

end Machine

end Loops

theorem HeadlessScreen.countsShows (grid : Grid) :
    CountsShows (fun screen : HeadlessScreen grid => screen.renders) where
  clear _ := rfl
  toggle _ _ _ := rfl
  render screen := by
    obtain ⟨frame, renders, renderFailure⟩ := screen
    cases renderFailure <;> rfl

/-- A keypad operated by script, with another patience than one that is not asked. -/
theorem ScriptedKeypad.countdown : Countdown (κ := ScriptedKeypad) fun patience keypad unasked =>
    keypad = { unasked with patience } where
  others patience := {
    isPressed key same := by
      subst same
      simp only [Keypad.isPressed]
      split <;> exact ⟨rfl, rfl, fun _ => trivial⟩
    takePress same := by
      subst same
      simp only [Keypad.takePress]
      split <;> exact ⟨rfl, rfl, fun _ => trivial⟩
    discardPresses same := by
      subst same
      simp only [discardPresses_eq]
      split <;> exact ⟨rfl, rfl, fun _ => trivial⟩ }
  stays same := by
    subst same
    exact ⟨rfl, rfl⟩
  waits same := by
    subst same
    exact ⟨rfl, rfl⟩
  leaves same := by
    subst same
    exact ⟨rfl, rfl⟩

namespace Machine

/-- A machine that jumps on the spot, with a user who is asked three times in vain. -/
def spinner : ScriptedMachine Grid.standard MuteSpeaker :=
  (create { speed := 1 } (HeadlessScreen.blank Grid.standard) { patience := some 3 } {}).performAll
    [.load [0x12, 0x00]]

end Machine

end Chip8
