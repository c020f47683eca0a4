import Chip8.Device.Keyboard
import Mathlib.Data.List.Induction

/-! What a keyboard recalls of the reports it has read. A key is held as long as its latest report
tells, a report enters the queue of presses unless the key is then held, and presses are taken in
the order in which they entered. The reports stay on record here, each with the time at which it was
read; the keyboard itself keeps one time for each key. -/
namespace Chip8

/-- The key of the keypad that a character stands for. -/
def keyUnder? : Char → Option Key
  | '1' => some (Nibble.ofNat 0x1)
  | '2' => some (Nibble.ofNat 0x2)
  | '3' => some (Nibble.ofNat 0x3)
  | '4' => some (Nibble.ofNat 0xc)
  | 'q' | 'Q' => some (Nibble.ofNat 0x4)
  | 'w' | 'W' => some (Nibble.ofNat 0x5)
  | 'e' | 'E' => some (Nibble.ofNat 0x6)
  | 'r' | 'R' => some (Nibble.ofNat 0xd)
  | 'a' | 'A' => some (Nibble.ofNat 0x7)
  | 's' | 'S' => some (Nibble.ofNat 0x8)
  | 'd' | 'D' => some (Nibble.ofNat 0x9)
  | 'f' | 'F' => some (Nibble.ofNat 0xe)
  | 'z' | 'Z' => some (Nibble.ofNat 0xa)
  | 'x' | 'X' => some (Nibble.ofNat 0x0)
  | 'c' | 'C' => some (Nibble.ofNat 0xb)
  | 'v' | 'V' => some (Nibble.ofNat 0xf)
  | _ => none

def TerminalEvent.key? : TerminalEvent → Option Key
  | character c _ => keyUnder? c
  | escape | otherKey _ | other => none

/-- A report and the time at which it was read. -/
structure Reading where
  time : Nat
  event : TerminalEvent

namespace Reading

/-- Whether because of a reading a key still counts as held at a later time: it does for 150 ms,
the last of which is not complete. -/
def Holds (reading : Reading) (key : Key) (time : Nat) : Prop :=
  reading.event.key? = some key ∧ time < reading.time + 150000

instance (reading : Reading) (key : Key) (time : Nat) : Decidable (reading.Holds key time) :=
  inferInstanceAs (Decidable (_ ∧ _))

/-- The key that a reading adds to the presses when others came earlier. -/
def enters? (earlier : List Reading) (reading : Reading) : Option Key :=
  reading.event.key?.filter fun key => ¬ ∃ other ∈ earlier, other.Holds key reading.time

/-- The keys that readings add to the presses when others came earlier. -/
def entered (earlier : List Reading) : List Reading → List Key
  | [] => []
  | reading :: rest => (enters? earlier reading).toList ++ entered (earlier ++ [reading]) rest

theorem entered_concat (earlier readings : List Reading) (last : Reading) :
    entered earlier (readings ++ [last]) =
      entered earlier readings ++ (enters? (earlier ++ readings) last).toList := by
  induction readings generalizing earlier with
  | nil => simp [entered]
  | cons reading rest ih => simp [entered, ih, List.append_assoc]

end Reading

namespace Look

def report? (look : Look) : Option TerminalEvent :=
  match look.found with
  | .ok event => event
  | .error _ => none

/-- The reports that one call reads, which looks until there is nothing to report or a look
fails. -/
def heard (now : Nat) : List Look → List Reading
  | [] => []
  | look :: rest =>
    match look.found with
    | .ok (some event) => ⟨now + look.elapsed, event⟩ :: heard (now + look.elapsed) rest
    | .ok none | .error _ => []

/-- The time when one call has looked. -/
def timeAfter (now : Nat) : List Look → Nat
  | [] => now
  | look :: rest =>
    match look.found with
    | .ok (some _) => timeAfter (now + look.elapsed) rest
    | .ok none | .error _ => now + look.elapsed

/-- The failure, if there is one, that ends the looking of one call. -/
def failure? : List Look → Option DeviceError
  | [] => none
  | look :: rest =>
    match look.found with
    | .ok (some _) => failure? rest
    | .ok none => none
    | .error error => some error

/-- The looks that one call leaves to the next. -/
def later : List Look → List Look
  | [] => []
  | look :: rest =>
    match look.found with
    | .ok (some _) => later rest
    | .ok none | .error _ => rest

theorem report?_heard_later (now : Nat) (looks : List Look) :
    (heard now looks).map Reading.event ++ (later looks).filterMap report? =
      looks.filterMap report? := by
  induction looks generalizing now with
  | nil => rfl
  | cons look rest ih =>
    obtain ⟨elapsed, error | _ | event⟩ := look
    · rfl
    · rfl
    · simpa [heard, later, report?] using ih _

end Look

namespace Keyboard

/-- Only a letter and its capital have the letter for a lower case. -/
private theorem eq_of_toLower {c l : Char} (lowered : c.toLower = l) : c = l ∨ c = l.toUpper := by
  subst lowered
  by_cases capital : c.val ≥ 'A'.val ∧ c.val ≤ 'Z'.val
  · right
    have back : ∀ n ≤ 90, 65 ≤ n → (Char.ofNat n).toLower.toUpper = Char.ofNat n := by
      decide +kernel
    have again := back c.toNat capital.2 capital.1
    rw [Char.ofNat_toNat] at again
    exact again.symm
  · left
    delta Char.toLower
    rw [dif_neg capital]

theorem keyOfChar?_eq (c : Char) : keyOfChar? c = keyUnder? c := by
  have named : ∀ entry ∈ layout, keyOfChar? entry.1 = keyUnder? entry.1 ∧
      keyOfChar? entry.1.toUpper = keyUnder? entry.1.toUpper := by
    decide
  by_cases mapped : ∃ entry ∈ layout, c = entry.1 ∨ c = entry.1.toUpper
  · obtain ⟨entry, member, rfl | rfl⟩ := mapped
    · exact (named entry member).1
    · exact (named entry member).2
  · have unmapped : keyOfChar? c = none := by
      rw [keyOfChar?, Option.map_eq_none_iff, List.lookup_eq_none_iff]
      intro entry member
      exact bne_iff_ne.mpr fun same => mapped ⟨entry, member, eq_of_toLower same⟩
    rw [unmapped]
    unfold keyUnder?
    split
    case h_29 => rfl
    all_goals exact (mapped (by decide)).elim

theorem receive_fst (keyboard : Keyboard) (event : TerminalEvent) :
    (keyboard.receive event).1 =
      match event.key? with
      | some key => keyboard.press key
      | none => if event = .escape then { keyboard with exit := true } else keyboard := by
  cases event with
  | character c =>
    cases mapped : keyUnder? c <;>
      simp [receive, TerminalEvent.key?, keyOfChar?_eq, mapped]
  | escape | otherKey | other => rfl

theorem now_receive (keyboard : Keyboard) (event : TerminalEvent) :
    (keyboard.receive event).1.now = keyboard.now := by
  rw [receive_fst]
  split
  · rfl
  · split <;> rfl

theorem answer_wantsExit (keyboard : Keyboard) :
    (Keypad.wantsExit keyboard).answer = keyboard.readTerminal.device.exit := by
  simp only [Keypad.wantsExit]
  split <;> rfl

/-- When a call has looked, how that ended, and what it leaves to the next. -/
theorem lookOn_eq (keyboard : Keyboard) (looks : List Look) :
    (keyboard.lookOn looks).answer = ((Look.failure? looks).elim (.ok ()) .error) ∧
      (keyboard.lookOn looks).device.now = Look.timeAfter keyboard.now looks ∧
      (keyboard.lookOn looks).device.looks = Look.later looks := by
  induction looks generalizing keyboard with
  | nil => exact ⟨rfl, rfl, rfl⟩
  | cons look rest ih =>
    obtain ⟨elapsed, error | _ | event⟩ := look
    · exact ⟨rfl, rfl, rfl⟩
    · exact ⟨rfl, rfl, rfl⟩
    · have next := ih ((keyboard.advance elapsed).receive event).1
      rw [now_receive] at next
      exact next

end Keyboard

/-- A keyboard in use: what has been read so far, and the presses that have been taken. -/
structure Session where
  keyboard : Keyboard := {}
  readings : List Reading := []
  taken : List UInt8 := []

namespace Session

/-- What happens to a keyboard. What the looks will find is settled from time to time, always before
they happen. -/
inductive Use where
  | coming (look : Look)
  | elapsed (microseconds : Nat)
  | isPressed (key : UInt8)
  | takePress
  | wantsExit

/-- The report that the terminal will make. -/
def Use.report? : Use → Option TerminalEvent
  | coming look => look.report?
  | _ => none

/-- The readings when one call more has looked. -/
def readingsByNow (session : Session) : List Reading :=
  session.readings ++ Look.heard session.keyboard.now session.keyboard.looks

/-- What a use makes of a session. -/
def after (session : Session) : Use → Session
  | .coming look =>
    { session with
      keyboard := { session.keyboard with looks := session.keyboard.looks ++ [look] } }
  | .elapsed microseconds => { session with keyboard := session.keyboard.advance microseconds }
  | .isPressed key =>
    { session with
      keyboard := (Keypad.isPressed session.keyboard (keyOfByte key)).device
      readings := session.readingsByNow }
  | .takePress =>
    let reply := Keypad.takePress session.keyboard
    let press := match reply.answer with
      | .ok press => press
      | .error _ => none
    ⟨reply.device, session.readingsByNow, session.taken ++ press.toList⟩
  | .wantsExit =>
    { session with
      keyboard := (Keypad.wantsExit session.keyboard).device
      readings := session.readingsByNow }

def run (uses : List Use) : Session := uses.foldl after {}

/-- What a keyboard keeps is what its readings tell. -/
structure Faithful (session : Session) : Prop where
  past : ∀ reading ∈ session.readings, reading.time ≤ session.keyboard.now
  sorted : session.readings.Pairwise fun earlier later => earlier.time ≤ later.time
  held (key : Key) (time : Nat) :
    (session.keyboard.heldUntil.get key).any (fun limit => time < limit) ↔
      ∃ reading ∈ session.readings, reading.Holds key time
  queue : session.taken ++ session.keyboard.presses.map byteOfKey =
    (Reading.entered [] session.readings).map byteOfKey
  exit : session.keyboard.exit ↔ ∃ reading ∈ session.readings, reading.event = .escape

private theorem exists_mem_concat {α : Type} {p : α → Prop} {list : List α} {last : α} :
    (∃ x ∈ list ++ [last], p x) ↔ (∃ x ∈ list, p x) ∨ p last := by
  simp only [List.mem_append, List.mem_singleton, or_and_right, exists_or, exists_eq_left]

theorem faithful_new : Faithful {} where
  past := nofun
  sorted := List.Pairwise.nil
  held key time := by
    have never : (Vector.replicate 16 (none : Option Nat)).get key = none := by
      simp [Vector.get]
    simp [never]
  queue := rfl
  exit := by simp

namespace Faithful

variable {session : Session} (faithful : session.Faithful)

include faithful

theorem isHeld_iff (key : Key) : session.keyboard.isHeld key ↔
    ∃ reading ∈ session.readings, reading.Holds key session.keyboard.now := by
  rw [← faithful.held]
  rfl

/-- A report enters the presses unless its key is held. -/
private theorem enters?_eq {event : TerminalEvent} {key : Key} (named : event.key? = some key) :
    Reading.enters? session.readings ⟨session.keyboard.now, event⟩ =
      if session.keyboard.isHeld key then none else some key := by
  rw [Reading.enters?, named, Option.filter_some]
  by_cases held : session.keyboard.isHeld key
  · have holding := (faithful.isHeld_iff key).mp held
    rw [if_pos held, if_neg (by simpa using holding)]
  · have free := (not_congr (faithful.isHeld_iff key)).mp held
    rw [if_neg held, if_pos (by simpa using free)]

private theorem held_receive (event : TerminalEvent) (key : Key) (time : Nat) :
    ((session.keyboard.receive event).1.heldUntil.get key).any (fun limit => time < limit) ↔
      ∃ reading ∈ session.readings ++ [⟨session.keyboard.now, event⟩], reading.Holds key time := by
  have earlier := faithful.held key time
  rw [exists_mem_concat, ← earlier, Keyboard.receive_fst]
  cases named : event.key? with
  | none =>
    have silent : ¬ Reading.Holds ⟨session.keyboard.now, event⟩ key time := by
      simp [Reading.Holds, named]
    simp only [silent, or_false]
    split <;> rfl
  | some pressed =>
    by_cases same : pressed = key
    · subst same
      -- The latest reading holds the key longest, so the time it sets is the only one to keep.
      have latest : (session.keyboard.heldUntil.get pressed).any (fun limit => time < limit) →
          time < session.keyboard.now + 150000 := by
        intro holding
        obtain ⟨reading, member, _, limit⟩ := earlier.mp holding
        have past := faithful.past reading member
        omega
      have set : (session.keyboard.press pressed).heldUntil.get pressed =
          some (session.keyboard.now + 150000) :=
        (Vector.get_put _ _ _ _).trans (if_pos rfl)
      have holds : Reading.Holds ⟨session.keyboard.now, event⟩ pressed time ↔
          time < session.keyboard.now + 150000 := and_iff_right named
      rw [holds, set, Option.any_some, decide_eq_true_iff]
      exact ⟨Or.inr, fun either => either.elim latest id⟩
    · have other : ¬ Reading.Holds ⟨session.keyboard.now, event⟩ key time := by
        simp [Reading.Holds, named, same]
      simp only [other, or_false, Keyboard.press, Vector.get_put, if_neg same]

private theorem queue_receive (event : TerminalEvent) :
    session.taken ++ (session.keyboard.receive event).1.presses.map byteOfKey =
      (Reading.entered [] (session.readings ++ [⟨session.keyboard.now, event⟩])).map byteOfKey := by
  have earlier := faithful.queue
  rw [Reading.entered_concat, List.map_append, ← earlier, List.append_assoc, List.nil_append,
    Keyboard.receive_fst]
  congr 1
  cases named : event.key? with
  | none =>
    simp only [Reading.enters?, named, Option.filter_none]
    split <;> simp
  | some pressed =>
    rw [faithful.enters?_eq named]
    simp only [Keyboard.press]
    split <;> simp

private theorem exit_receive (event : TerminalEvent) :
    (session.keyboard.receive event).1.exit ↔
      ∃ reading ∈ session.readings ++ [⟨session.keyboard.now, event⟩], reading.event = .escape := by
  rw [exists_mem_concat, ← faithful.exit, Keyboard.receive_fst]
  cases named : event.key? with
  | none => by_cases escape : event = .escape <;> simp [escape]
  | some pressed =>
    have noEscape : event ≠ .escape := by
      rintro rfl
      cases named
    simp [noEscape, Keyboard.press]

/-- One more report, as it is read. -/
theorem receive (event : TerminalEvent) :
    Faithful { session with
      keyboard := (session.keyboard.receive event).1
      readings := session.readings ++ [⟨session.keyboard.now, event⟩] } where
  past reading member := by
    simp only [Keyboard.now_receive]
    rcases List.mem_append.mp member with old | new
    · exact faithful.past reading old
    · exact Nat.le_of_eq (congrArg Reading.time (List.mem_singleton.mp new))
  sorted := by
    apply List.pairwise_append.mpr ⟨faithful.sorted, List.pairwise_singleton _ _, ?_⟩
    intro reading old new member
    rw [List.mem_singleton.mp member]
    exact faithful.past reading old
  held := faithful.held_receive event
  queue := faithful.queue_receive event
  exit := faithful.exit_receive event

theorem advance (microseconds : Nat) :
    Faithful { session with keyboard := session.keyboard.advance microseconds } where
  past reading member := Nat.le_trans (faithful.past reading member) (Nat.le_add_right _ _)
  sorted := faithful.sorted
  held := faithful.held
  queue := faithful.queue
  exit := faithful.exit

theorem looks (looks : List Look) :
    Faithful { session with keyboard := { session.keyboard with looks := looks } } :=
  ⟨faithful.past, faithful.sorted, faithful.held, faithful.queue, faithful.exit⟩

/-- Look by look, until one call has looked. -/
theorem lookOn (looks : List Look) : Faithful { session with
    keyboard := (session.keyboard.lookOn looks).device
    readings := session.readings ++ Look.heard session.keyboard.now looks } := by
  induction looks generalizing session with
  | nil =>
    rw [Look.heard, List.append_nil]
    exact faithful.looks []
  | cons look rest ih =>
    obtain ⟨elapsed, error | _ | event⟩ := look
    · simp only [Look.heard, List.append_nil]
      exact (faithful.advance elapsed).looks rest
    · simp only [Look.heard, List.append_nil]
      exact (faithful.advance elapsed).looks rest
    · have later := ih ((faithful.advance elapsed).receive event)
      simp only [Keyboard.now_receive, List.append_assoc] at later
      exact later

theorem readTerminal : Faithful { session with
    keyboard := session.keyboard.readTerminal.device
    readings := session.readingsByNow } :=
  faithful.lookOn session.keyboard.looks

theorem after (use : Use) : (session.after use).Faithful := by
  have all := faithful.readTerminal
  cases use with
  | coming look => exact faithful.looks _
  | elapsed microseconds => exact faithful.advance microseconds
  | isPressed key => exact all
  | wantsExit =>
    simp only [Session.after, Keypad.wantsExit]
    split <;> exact all
  | takePress =>
    simp only [Session.after, Keypad.takePress]
    split
    · simpa using all
    · refine ⟨all.past, all.sorted, all.held, ?_, all.exit⟩
      have queue := all.queue
      simp only at queue ⊢
      rw [← queue]
      cases session.keyboard.readTerminal.device.presses <;> simp

end Faithful

private theorem looks_after (session : Session) (use : Use) :
    (session.after use).readings.map Reading.event ++
        (session.after use).keyboard.looks.filterMap Look.report? =
      session.readings.map Reading.event ++ session.keyboard.looks.filterMap Look.report? ++
        use.report?.toList := by
  have all : session.readingsByNow.map Reading.event ++
        session.keyboard.readTerminal.device.looks.filterMap Look.report? =
      session.readings.map Reading.event ++ session.keyboard.looks.filterMap Look.report? := by
    have left := (session.keyboard.lookOn_eq session.keyboard.looks).2.2
    rw [readingsByNow, Keyboard.readTerminal, left, List.map_append, List.append_assoc,
      Look.report?_heard_later]
  cases use with
  | coming look =>
    simp only [after, Use.report?, List.filterMap_append, List.append_assoc]
    cases found : look.report? <;> simp [found]
  | elapsed microseconds => exact (List.append_nil _).symm
  | isPressed key => exact all.trans (List.append_nil _).symm
  | takePress =>
    simp only [after, Keypad.takePress]
    split <;> exact all.trans (List.append_nil _).symm
  | wantsExit =>
    simp only [after, Keypad.wantsExit]
    split <;> exact all.trans (List.append_nil _).symm

private theorem run_concat (uses : List Use) (last : Use) :
    run (uses ++ [last]) = (run uses).after last := by
  rw [run, List.foldl_append]
  rfl

/-- Every report of the terminal has been read once or is still to come, in order. -/
theorem reports_run (uses : List Use) :
    (run uses).readings.map Reading.event ++
        (run uses).keyboard.looks.filterMap Look.report? =
      uses.filterMap Use.report? := by
  induction uses using List.reverseRecOn with
  | nil => rfl
  | append_singleton uses last ih =>
    rw [run_concat, looks_after, ih, List.filterMap_append]
    cases last <;> rfl

theorem faithful_run (uses : List Use) : (run uses).Faithful := by
  induction uses using List.reverseRecOn with
  | nil => exact faithful_new
  | append_singleton uses last ih =>
    rw [run_concat]
    exact ih.after last

/-- What a call answers that would answer `answer` if every look succeeded. -/
def answering {α : Type} (session : Session) (answer : α) : Except DeviceError α :=
  (Look.failure? session.keyboard.looks).elim (.ok answer) .error

/-- What a session tells of the reports that were read in it. -/
structure Recalls (uses : List Use) (session : Session) : Prop where
  reports : session.readings.map Reading.event ++
      session.keyboard.looks.filterMap Look.report? = uses.filterMap Use.report?
  sorted : session.readings.Pairwise fun earlier later => earlier.time ≤ later.time
  isPressed (key : UInt8) : (Keypad.isPressed session.keyboard (keyOfByte key)).answer =
    session.answering (decide (∃ reading ∈ session.readingsByNow,
      reading.time ≤ Look.timeAfter session.keyboard.now session.keyboard.looks ∧
        reading.Holds (keyOfByte key)
          (Look.timeAfter session.keyboard.now session.keyboard.looks)))
  queue : session.taken ++ session.keyboard.presses.map byteOfKey =
    (Reading.entered [] session.readings).map byteOfKey
  takePress : (Keypad.takePress session.keyboard).answer =
    session.answering ((Reading.entered [] session.readingsByNow)[session.taken.length]?.map
      byteOfKey)
  wantsExit : (Keypad.wantsExit session.keyboard).answer =
    decide (∃ reading ∈ session.readingsByNow, reading.event = .escape)
  plain (c bare : Char) (modifiers : Modifiers) (letter : c.toLower = bare.toLower) :
    (session.keyboard.receive (.character c modifiers)).1 =
      (session.keyboard.receive (.character bare {})).1
  others (event : TerminalEvent) (noKey : event.key? = none) (noEscape : event ≠ .escape) :
    (session.keyboard.receive event).1 = session.keyboard

section Answers

variable {session : Session} (faithful : session.Faithful)

include faithful

private theorem answer_isPressed (key : Key) : (Keypad.isPressed session.keyboard key).answer =
    session.answering (decide (∃ reading ∈ session.readingsByNow,
      reading.time ≤ Look.timeAfter session.keyboard.now session.keyboard.looks ∧
        reading.Holds key (Look.timeAfter session.keyboard.now session.keyboard.looks))) := by
  have all := faithful.readTerminal
  obtain ⟨answer, time, -⟩ := session.keyboard.lookOn_eq session.keyboard.looks
  rw [← Keyboard.readTerminal] at answer time
  have held := all.isHeld_iff key
  rw [time] at held
  simp only [Keypad.isPressed, answer, answering]
  cases Look.failure? session.keyboard.looks with
  | some error => rfl
  | none =>
    refine congrArg Except.ok (Bool.eq_iff_iff.mpr ?_)
    rw [decide_eq_true_iff]
    refine held.trans ⟨?_, ?_⟩
    · rintro ⟨reading, member, holds⟩
      have past := all.past reading member
      rw [time] at past
      exact ⟨reading, member, past, holds⟩
    · rintro ⟨reading, member, _, holds⟩
      exact ⟨reading, member, holds⟩

private theorem answer_takePress : (Keypad.takePress session.keyboard).answer =
    session.answering ((Reading.entered [] session.readingsByNow)[session.taken.length]?.map
      byteOfKey) := by
  have all := faithful.readTerminal
  obtain ⟨answer, -, -⟩ := session.keyboard.lookOn_eq session.keyboard.looks
  rw [← Keyboard.readTerminal] at answer
  have next := congrArg (fun keys => keys[session.taken.length]?) all.queue
  simp only [List.getElem?_append_right (Nat.le_refl _), Nat.sub_self,
    List.getElem?_map] at next
  simp only [Keypad.takePress, answer, answering]
  cases Look.failure? session.keyboard.looks with
  | some error => rfl
  | none =>
    refine congrArg Except.ok (Eq.trans ?_ next)
    rw [List.head?_eq_getElem?]

end Answers

/-- However a keyboard is used, what it answers is what its readings tell. A call whose looking
fails has still read what came before, and only the question for an exit is answered then. -/
theorem recalls_readings (uses : List Use) : (run uses).Recalls uses where
  reports := reports_run uses
  sorted := (faithful_run uses).sorted
  isPressed key := answer_isPressed (faithful_run uses) (keyOfByte key)
  queue := (faithful_run uses).queue
  takePress := answer_takePress (faithful_run uses)
  wantsExit := by
    rw [Keyboard.answer_wantsExit]
    refine Bool.eq_iff_iff.mpr ?_
    rw [decide_eq_true_iff]
    exact (faithful_run uses).readTerminal.exit
  plain c bare modifiers letter := by
    simp only [Keyboard.receive_fst, TerminalEvent.key?, ← Keyboard.keyOfChar?_eq,
      Keyboard.keyOfChar?, letter, reduceCtorEq, if_false]
  others event noKey noEscape := by
    rw [Keyboard.receive_fst, noKey]
    exact if_neg noEscape

/-- A capital counts as its letter, for 150 ms and not a microsecond longer. -/
example : [(99999 : Nat), 100000].map (fun later =>
    (Keypad.isPressed (run [.elapsed 50000, .coming ⟨0, .ok (some (.character 'Q' {}))⟩, .takePress,
      .elapsed 50000, .isPressed 4, .elapsed later]).keyboard (keyOfByte 4)).answer.toOption) =
    [some true, some false] := by decide

end Session

end Chip8
