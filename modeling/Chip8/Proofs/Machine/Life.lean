import Chip8.Proofs.Machine.Cycle
import Chip8.Proofs.Machine.History

namespace Chip8.Machine

variable {δ κ τ : Type} [Screen δ] [Keypad κ] [Speaker τ]

/-- The machines at which a main loop begins its cycles, in order. -/
def cyclesFrom : (limit : Nat) → Machine δ κ τ → List (Machine δ κ τ)
  | 0, _ => []
  | limit + 1, m =>
    let reply := Keypad.wantsExit m.keypad
    let m := m.afterKeypad reply
    if reply.answer then []
    else m :: match m.cycle with
      | .done _ next => cyclesFrom limit next
      | .failed _ _ => []

/-- The machines at which an action begins cycles, in order. -/
def cyclesIn (m : Machine δ κ τ) : Action δ κ τ → List (Machine δ κ τ)
  | .cycle => [m]
  | .run frames => cyclesFrom (cycleLimit frames) (m.note (.running m.settings.rate m.batchSize))
  | _ => []

/-- The machines at which actions, one after the other, begin cycles. -/
def cyclesOver (m : Machine δ κ τ) : List (Action δ κ τ) → List (Machine δ κ τ)
  | [] => []
  | action :: rest => m.cyclesIn action ++ (m.perform action).state.cyclesOver rest

/-- How one machine comes of another: by cycles that begin at the listed machines, and by what goes
on between cycles. -/
inductive Life (between : Machine δ κ τ → Machine δ κ τ → Prop) :
    Machine δ κ τ → List (Machine δ κ τ) → Machine δ κ τ → Prop where
  | still (m : Machine δ κ τ) : Life between m [] m
  | aside {m next last : Machine δ κ τ} {starts : List (Machine δ κ τ)}
      (change : between m next) (rest : Life between next starts last) : Life between m starts last
  | cycled {m last : Machine δ κ τ} {starts : List (Machine δ κ τ)}
      (rest : Life between m.cycle.state starts last) : Life between m (m :: starts) last

variable {between : Machine δ κ τ → Machine δ κ τ → Prop} {m last : Machine δ κ τ}

namespace Life

theorem append {middle : Machine δ κ τ} {starts later : List (Machine δ κ τ)}
    (first : Life between m starts middle) (second : Life between middle later last) :
    Life between m (starts ++ later) last := by
  induction first with
  | still => exact second
  | aside change _ ih => exact .aside change (ih second)
  | cycled _ ih => exact .cycled (ih second)

/-- Every cycle of a life parts it into what comes before the cycle and what comes after. -/
theorem split {earlier later : List (Machine δ κ τ)} {start : Machine δ κ τ}
    (life : Life between m (earlier ++ start :: later) last) :
    Life between m earlier start ∧ Life between start.cycle.state later last := by
  generalize same : earlier ++ start :: later = starts at life
  induction life generalizing earlier with
  | still =>
    rw [List.append_eq_nil_iff] at same
    cases same.2
  | aside change _ ih =>
    obtain ⟨before, after⟩ := ih same
    exact ⟨.aside change before, after⟩
  | cycled rest ih =>
    cases earlier with
    | nil =>
      cases same
      exact ⟨.still _, rest⟩
    | cons first earlier =>
      cases same
      obtain ⟨before, after⟩ := ih rfl
      exact ⟨.cycled before, after⟩

end Life

section Histories

omit [Keypad κ] [Speaker τ] in
theorem stepped_pressKey (m : Machine δ κ τ) (key : UInt8) : Stepped m (m.pressKey key).2 := by
  unfold pressKey
  split
  · exact .of_eq rfl rfl rfl rfl
  · split <;> exact .of_eq rfl rfl rfl rfl

omit [Keypad κ] [Speaker τ] in
private theorem stepped_load (m : Machine δ κ τ) (program : List UInt8) :
    Stepped m (m.load program).state := by
  unfold load
  cases m.memory.load program <;> exact .of_eq rfl rfl rfl rfl

variable (stepped : ∀ m after : Machine δ κ τ, Stepped m after → between m after)

include stepped

private theorem life_of_stepped {after : Machine δ κ τ} (same : Stepped m after) :
    Life between m [] after :=
  .aside (stepped m after same) (.still after)

private theorem life_runFrom (limit count : Nat) (m : Machine δ κ τ) :
    Life between m (cyclesFrom limit m) (runFrom limit count m).state := by
  induction limit generalizing count m with
  | zero => exact .still m
  | succ limit ih =>
    have asked : Stepped m (m.afterKeypad (Keypad.wantsExit m.keypad)) := .of_eq rfl rfl rfl rfl
    refine .aside (stepped _ _ asked) ?_
    simp only [runFrom, cyclesFrom]
    split
    · exact life_of_stepped stepped (.of_eq rfl rfl rfl rfl)
    · refine .cycled ?_
      cases (m.afterKeypad (Keypad.wantsExit m.keypad)).cycle with
      | done value next => exact ih (count + 1) next
      | failed fault stopped => exact .still stopped

private theorem life_perform (action : Action δ κ τ) (m : Machine δ κ τ)
    (screen : ∀ change, action = .screen change → between m { m with screen := change m.screen })
    (speaker : ∀ change, action = .speaker change →
      between m { m with speaker := change m.speaker }) :
    Life between m (m.cyclesIn action) (m.perform action).state := by
  cases action with
  | load program =>
    rw [perform, Outcome.state_map]
    exact life_of_stepped stepped (stepped_load m program)
  | loadFrom source =>
    rw [perform, Outcome.state_map, loadFrom]
    cases source.readAll with
    | ok program => exact life_of_stepped stepped (stepped_load m program)
    | error error => exact .still m
  | step =>
    rw [perform, Outcome.state_map]
    exact life_of_stepped stepped (stepped_step m)
  | cycle =>
    rw [perform, Outcome.state_map]
    exact .cycled (.still _)
  | run frames =>
    rw [perform, Outcome.state_map]
    have noted : Stepped m (m.note (.running m.settings.rate m.batchSize)) :=
      .of_eq rfl rfl rfl rfl
    exact .aside (stepped _ _ noted) (life_runFrom stepped _ 0 _)
  | pressKey key => exact life_of_stepped stepped (stepped_pressKey m key)
  | tick | keypad change => exact life_of_stepped stepped (.of_eq rfl rfl rfl rfl)
  | screen change => exact .aside (screen change rfl) (.still _)
  | speaker change => exact .aside (speaker change rfl) (.still _)

/-- Every history is a life through its cycles. -/
theorem life_performAll {actions : List (Action δ κ τ)} (m : Machine δ κ τ)
    (screen : ∀ change, .screen change ∈ actions → ∀ m : Machine δ κ τ,
      between m { m with screen := change m.screen })
    (speaker : ∀ change, .speaker change ∈ actions → ∀ m : Machine δ κ τ,
      between m { m with speaker := change m.speaker }) :
    Life between m (m.cyclesOver actions) (m.performAll actions) := by
  induction actions generalizing m with
  | nil => exact .still m
  | cons action rest ih =>
    have first := life_perform stepped action m
      (fun change same => screen change (by rw [same]; exact List.mem_cons_self) m)
      (fun change same => speaker change (by rw [same]; exact List.mem_cons_self) m)
    exact first.append (ih (m.perform action).state
      (fun change listed => screen change (List.mem_cons_of_mem _ listed))
      (fun change listed => speaker change (List.mem_cons_of_mem _ listed)))

end Histories

end Chip8.Machine
