import Chip8.Proofs.Machine.Reseeding
import Chip8.Proofs.Machine.Trace

namespace Chip8

open RandomStream

/-- A random byte being drawn: for which register, with which mask, and what the register then
holds. -/
structure Draw where
  register : Register
  mask : UInt8
  value : UInt8
  deriving DecidableEq, Repr

/-- Whether bytes drawn in the order of two seeds are the same under the masks. -/
def Draw.Alike (seed other : UInt64) (draws : List Draw) : Prop :=
  ∀ k draw, draws[k]? = some draw →
    byteAt (Random.keyOfSeed seed) k &&& draw.mask =
      byteAt (Random.keyOfSeed other) k &&& draw.mask

namespace Machine

variable {δ κ τ α β : Type} [Screen δ] [Keypad κ]

/-- The random byte drawn by the instruction that a machine executes next, if it draws one. -/
def drawing? (m : Machine δ κ τ) : Option Draw :=
  match m.fetch with
  | .ok (_, .random x kk) => some ⟨x, kk, m.fetchAndExecute.state.v.get x⟩
  | _ => none

/-- The random bytes drawn by the instructions that machines execute. -/
def draws (visits : List (Machine δ κ τ)) : List Draw := visits.filterMap drawing?

/-- Whether the instruction that a machine executes next does the same with another seed. -/
def Agrees (seed : UInt64) (m : Machine δ κ τ) : Prop :=
  ∀ draw, m.drawing? = some draw →
    m.random.byte &&& draw.mask =
      byteAt (Random.keyOfSeed seed) m.random.taken &&& draw.mask

omit [Screen δ] [Keypad κ] in
theorem fetch_reseed (seed : UInt64) (m : Machine δ κ τ) : (m.reseed seed).fetch = m.fetch := rfl

private theorem drawing?_cases (m : Machine δ κ τ) :
    (m.drawing? = none ∧ ∀ word x kk, m.fetch ≠ .ok (word, .random x kk)) ∨
      ∃ word x kk, m.fetch = .ok (word, .random x kk) ∧
        m.drawing? = some ⟨x, kk, m.fetchAndExecute.state.v.get x⟩ := by
  unfold drawing?
  split
  · rename_i word x kk found
    exact .inr ⟨word, x, kk, found, rfl⟩
  · rename_i other
    exact .inl ⟨rfl, fun word x kk found => other word x kk found⟩

private theorem execute_random {m : Machine δ κ τ} {word : UInt16} {x : Register} {kk : UInt8}
    (found : m.fetch = .ok (word, .random x kk)) :
    m.fetchAndExecute = .done () { (m.past word (.random x kk)).setRegister x
      (m.random.byte &&& kk) with random := m.random.tail } := by
  rw [fetchAndExecute_eq, found]
  rfl

/-- What is drawn is the next random byte under the mask, and it is then taken. -/
theorem drawn_fetch {m : Machine δ κ τ} {draw : Draw} (draws : m.drawing? = some draw) :
    draw.value = m.random.byte &&& draw.mask ∧
      m.fetchAndExecute.state.random = m.random.tail := by
  rcases m.drawing?_cases with ⟨none, _⟩ | ⟨word, x, kk, found, same⟩
  · rw [none] at draws
    cases draws
  · rw [same] at draws
    cases draws
    rw [execute_random found]
    refine ⟨?_, rfl⟩
    exact (Vector.get_put m.v x x _).trans (if_pos rfl)

private theorem seedless_fetchAndExecute {m : Machine δ κ τ} (still : m.drawing? = none) :
    Seedless fetchAndExecute m := by
  have other : ∀ word x kk, m.fetch ≠ .ok (word, .random x kk) := by
    rcases m.drawing?_cases with ⟨_, other⟩ | ⟨word, x, kk, _, draws⟩
    · exact other
    · rw [draws] at still
      cases still
  cases found : m.fetch with
  | error fault =>
    refine (Seedless.failed fault m).of_eq ?_ fun seed => ?_
    · rw [fetchAndExecute_eq, found]
    · rw [fetchAndExecute_eq, fetch_reseed, found]
  | ok fetched =>
    obtain ⟨word, instruction⟩ := fetched
    have executed := seedless_execute (m.past word instruction) instruction <| by
      rintro x kk rfl
      exact other word x kk found
    constructor
    · rw [fetchAndExecute_eq, found]
      exact executed.random
    · intro seed
      rw [fetchAndExecute_eq, fetchAndExecute_eq, fetch_reseed, found]
      exact executed.reseed seed

/-- An instruction does the same with another seed, unless it draws a byte that differs. -/
theorem fetchAndExecute_reseed {seed : UInt64} {m : Machine δ κ τ} (agrees : m.Agrees seed) :
    (m.reseed seed).fetchAndExecute = m.fetchAndExecute.onState (reseed seed) := by
  rcases m.drawing?_cases with ⟨still, _⟩ | ⟨word, x, kk, found, draws⟩
  · exact (seedless_fetchAndExecute still).reseed seed
  · have byte := agrees _ draws
    have there : (m.reseed seed).fetch = .ok (word, .random x kk) := found
    have drawn : (m.reseed seed).random.byte =
        byteAt (Random.keyOfSeed seed) m.random.taken := byte_eq_byteAt _
    have tail : (m.reseed seed).random.tail =
        startingAt (Random.keyOfSeed seed) m.random.tail.taken := by
      rw [taken_tail]
      exact tail_startingAt _ _
    rw [execute_random found, execute_random there, drawn, tail, ← byte]
    rfl

/-- Whether executing instructions in some machines leads a stream of random bytes from one place to
another. -/
inductive Drawn : RandomStream → List (Machine δ κ τ) → RandomStream → Prop where
  | start (random : RandomStream) : Drawn random [] random
  | still {m : Machine δ κ τ} {rest : List (Machine δ κ τ)} {after : RandomStream}
      (draws : m.drawing? = none) (drawn : Drawn m.random rest after) :
      Drawn m.random (m :: rest) after
  | draw {m : Machine δ κ τ} {rest : List (Machine δ κ τ)} {after : RandomStream} {draw : Draw}
      (draws : m.drawing? = some draw) (drawn : Drawn m.random.tail rest after) :
      Drawn m.random (m :: rest) after

namespace Drawn

variable {random middle after : RandomStream} {visits later : List (Machine δ κ τ)}

theorem trans (first : Drawn random visits middle) (second : Drawn middle later after) :
    Drawn random (visits ++ later) after := by
  induction first with
  | start => exact second
  | still draws _ ih => exact .still draws (ih second)
  | draw draws _ ih => exact .draw draws (ih second)

theorem key (drawn : Drawn random visits after) : after.key = random.key := by
  induction drawn with
  | start => rfl
  | still _ _ ih => exact ih
  | draw _ _ ih => rw [ih, key_tail]

theorem taken (drawn : Drawn random visits after) :
    after.taken = random.taken + (draws visits).length := by
  induction drawn with
  | start => rfl
  | still none _ ih =>
    rw [ih, draws, draws, List.filterMap_cons_none none]
  | draw some _ ih =>
    rw [ih, draws, draws, List.filterMap_cons_some some, taken_tail, List.length_cons]
    omega

/-- The bytes are drawn in the order of the stream. -/
theorem value (drawn : Drawn random visits after) {k : Nat} {draw : Draw}
    (found : (draws visits)[k]? = some draw) :
    draw.value = byteAt random.key (random.taken + k) &&& draw.mask := by
  induction drawn generalizing k with
  | start => cases found
  | still none _ ih =>
    rw [draws, List.filterMap_cons_none none] at found
    exact ih found
  | @draw m rest after first some _ ih =>
    rw [draws, List.filterMap_cons_some some] at found
    cases k with
    | zero =>
      cases found
      rw [(drawn_fetch some).1, byte_eq_byteAt]
      rfl
    | succ k =>
      have next := ih found
      rw [key_tail, taken_tail] at next
      rw [next, Nat.add_right_comm, Nat.add_assoc]

/-- A seed makes no difference to machines that draw no byte that differs. -/
theorem agrees {seed : UInt64} (drawn : Drawn random visits after)
    (alike : ∀ k draw, (draws visits)[k]? = some draw →
      byteAt random.key (random.taken + k) &&& draw.mask =
        byteAt (Random.keyOfSeed seed) (random.taken + k) &&& draw.mask) :
    ∀ visit ∈ visits, visit.Agrees seed := by
  induction drawn with
  | start => nofun
  | @still m rest after none _ ih =>
    rw [draws, List.filterMap_cons_none none] at alike
    intro visit member
    rcases List.mem_cons.mp member with rfl | member
    · intro draw some
      rw [none] at some
      cases some
    · exact ih alike visit member
  | @draw m rest after first some _ ih =>
    rw [draws, List.filterMap_cons_some some] at alike
    intro visit member
    rcases List.mem_cons.mp member with rfl | member
    · intro draw same
      rw [some] at same
      cases same
      rw [byte_eq_byteAt]
      exact alike 0 first rfl
    · refine ih (fun k draw found => ?_) visit member
      have next := alike (k + 1) draw found
      rw [key_tail, taken_tail, Nat.add_assoc, Nat.add_comm 1]
      exact next

theorem take (drawn : Drawn random visits after) (n : Nat) :
    ∃ middle, Drawn random (visits.take n) middle := by
  induction drawn generalizing n with
  | start => exact ⟨_, by rw [List.take_nil]; exact .start _⟩
  | still none _ ih =>
    cases n with
    | zero => exact ⟨_, .start _⟩
    | succ n =>
      obtain ⟨middle, rest⟩ := ih n
      exact ⟨middle, .still none rest⟩
  | draw some _ ih =>
    cases n with
    | zero => exact ⟨_, .start _⟩
    | succ n =>
      obtain ⟨middle, rest⟩ := ih n
      exact ⟨middle, .draw some rest⟩

end Drawn

/-- Whether the machines in which another seed has instructions executed are the same but for the
seed, up to a byte that makes a difference. -/
def Matched (seed : UInt64) : List (Machine δ κ τ) → List (Machine δ κ τ) → Prop
  | [], [] => True
  | m :: rest, m' :: rest' => m' = m.reseed seed ∧ (m.Agrees seed → Matched seed rest rest')
  | _, _ => False

namespace Matched

variable {seed : UInt64} {visits visits' later later' : List (Machine δ κ τ)}

theorem append (first : Matched seed visits visits')
    (second : (∀ m ∈ visits, m.Agrees seed) → Matched seed later later') :
    Matched seed (visits ++ later) (visits' ++ later') := by
  induction visits generalizing visits' with
  | nil =>
    cases visits' with
    | nil => exact second nofun
    | cons m' rest' => exact first.elim
  | cons m rest ih =>
    cases visits' with
    | nil => exact first.elim
    | cons m' rest' =>
      refine ⟨first.1, fun agrees => ih (first.2 agrees) fun others => second ?_⟩
      intro visit member
      rcases List.mem_cons.mp member with rfl | member
      · exact agrees
      · exact others visit member

/-- The first machine after those in which the seed makes no difference is still the same. -/
theorem take_succ (matched : Matched seed visits visits') (n : Nat)
    (agree : ∀ m ∈ visits.take n, m.Agrees seed) :
    visits'.take (n + 1) = (visits.take (n + 1)).map (reseed seed) := by
  induction n generalizing visits visits' with
  | zero =>
    cases visits <;> cases visits'
    · rfl
    · exact matched.elim
    · exact matched.elim
    · rw [matched.1]
      rfl
  | succ n ih =>
    cases visits <;> cases visits'
    · rfl
    · exact matched.elim
    · exact matched.elim
    · rename_i m rest m' rest'
      have agrees : m.Agrees seed := agree m List.mem_cons_self
      have others := ih (matched.2 agrees) fun visit member =>
        agree visit (List.mem_cons_of_mem m member)
      rw [List.take_succ_cons, List.take_succ_cons, others, matched.1]
      rfl

end Matched

/-- What a traced operation has to do with random bytes: it draws what it takes of the stream, and
another seed makes no difference to it but by the bytes that are drawn. -/
structure Reseeds (trace : Machine δ κ τ → Traced (Machine δ κ τ) α) (m : Machine δ κ τ) :
    Prop where
  drawn : Drawn m.random (trace m).visits (trace m).outcome.state.random
  matched (seed : UInt64) : Matched seed (trace m).visits (trace (m.reseed seed)).visits
  outcome (seed : UInt64) (agree : ∀ visit ∈ (trace m).visits, visit.Agrees seed) :
    (trace (m.reseed seed)).outcome = (trace m).outcome.onState (reseed seed)

namespace Reseeds

variable {trace : Machine δ κ τ → Traced (Machine δ κ τ) α} {m : Machine δ κ τ}

theorem of_eq {other : Machine δ κ τ → Traced (Machine δ κ τ) α} (reseeds : Reseeds other m)
    (here : trace m = other m) (there : ∀ seed, trace (m.reseed seed) = other (m.reseed seed)) :
    Reseeds trace m where
  drawn := by
    rw [here]
    exact reseeds.drawn
  matched seed := by
    rw [here, there]
    exact reseeds.matched seed
  outcome seed := by
    rw [here, there]
    exact reseeds.outcome seed

theorem quiet {operation : Machine δ κ τ → Outcome (Machine δ κ τ) α}
    (seedless : Seedless operation m) : Reseeds (fun m => .quiet (operation m)) m where
  drawn := by
    have random : (Traced.quiet (operation m)).outcome.state.random = m.random := seedless.random
    rw [random]
    exact .start m.random
  matched _ := trivial
  outcome seed _ := seedless.reseed seed

theorem andThen (first : Reseeds trace m) (next : α → Machine δ κ τ → Traced (Machine δ κ τ) β)
    (later : ∀ value after, (trace m).outcome = .done value after → Reseeds (next value) after) :
    Reseeds (fun m => (trace m).andThen next) m := by
  have drawn := first.drawn
  cases outcome : (trace m).outcome with
  | failed fault left =>
    have there (seed : UInt64) (agree : ∀ visit ∈ (trace m).visits, visit.Agrees seed) :
        (trace (m.reseed seed)).outcome = .failed fault (left.reseed seed) := by
      rw [first.outcome seed agree, outcome]
      rfl
    rw [outcome] at drawn
    constructor
    · simp only [Traced.andThen, outcome, List.append_nil]
      exact drawn
    · intro seed
      apply (first.matched seed).append
      intro agree
      simp only [there seed agree, outcome]
      trivial
    · intro seed agree
      simp only [Traced.andThen, outcome, List.append_nil] at agree ⊢
      rw [there seed agree]
      rfl
  | done value after =>
    have rest := later value after outcome
    have there (seed : UInt64) (agree : ∀ visit ∈ (trace m).visits, visit.Agrees seed) :
        (trace (m.reseed seed)).outcome = .done value (after.reseed seed) := by
      rw [first.outcome seed agree, outcome]
      rfl
    rw [outcome] at drawn
    constructor
    · simp only [Traced.andThen, outcome]
      exact drawn.trans rest.drawn
    · intro seed
      apply (first.matched seed).append
      intro agree
      simp only [there seed agree, outcome]
      exact rest.matched seed
    · intro seed agree
      simp only [Traced.andThen, outcome, List.forall_mem_append] at agree ⊢
      rw [there seed agree.1]
      exact rest.outcome seed agree.2

omit [Screen δ] [Keypad κ] in
private theorem random_guarded (outcome : Outcome (Machine δ κ τ) α) :
    (Machine.guarded outcome).state.random = outcome.state.random := by
  cases outcome with
  | done value m => rfl
  | failed fault m =>
    have core := congrArg Core.random (m.toCore_halt fault)
    exact core

omit [Screen δ] [Keypad κ] in
private theorem guarded_reseed (seed : UInt64) (outcome : Outcome (Machine δ κ τ) α) :
    Machine.guarded (outcome.onState (reseed seed)) =
      (Machine.guarded outcome).onState (reseed seed) := by
  cases outcome with
  | done value m => rfl
  | failed fault m =>
    obtain ⟨⟨memory, v, i, pc, stack, delay, sound, mode, random⟩, screen, keypad, speaker,
      settings, toneLost, journal⟩ := m
    cases mode <;> rfl

theorem guarded (reseeds : Reseeds trace m) : Reseeds (fun m => traceGuarded (trace m)) m where
  drawn := by
    rw [traceGuarded, random_guarded]
    exact reseeds.drawn
  matched := reseeds.matched
  outcome seed agree := by
    simp only [traceGuarded]
    rw [reseeds.outcome seed agree, guarded_reseed]

theorem map (f : α → β) (reseeds : Reseeds trace m) : Reseeds (fun m => (trace m).map f) m where
  drawn := by
    rw [Traced.map, Outcome.state_map]
    exact reseeds.drawn
  matched := reseeds.matched
  outcome seed agree := by
    simp only [Traced.map]
    rw [reseeds.outcome seed agree]
    cases (trace m).outcome <;> rfl

theorem fetch (m : Machine δ κ τ) : Reseeds traceFetch m where
  drawn := by
    cases draws : m.drawing? with
    | none =>
      have random : m.traceFetch.outcome.state.random = m.random :=
        (seedless_fetchAndExecute draws).random
      rw [random]
      exact .still draws (.start _)
    | some draw =>
      have random : m.traceFetch.outcome.state.random = m.random.tail := (drawn_fetch draws).2
      rw [random]
      exact .draw draws (.start _)
  matched seed := ⟨rfl, fun _ => trivial⟩
  outcome seed agree := fetchAndExecute_reseed (agree m List.mem_cons_self)

theorem step (m : Machine δ κ τ) : Reseeds traceStep m := by
  cases mode : m.mode with
  | running =>
    refine (Reseeds.fetch m).guarded.of_eq ?_ fun seed => ?_
    · simp only [traceStep, mode]
    · simp only [traceStep, mode_reseed, mode]
  | awaiting x =>
    refine (Reseeds.quiet (.done () m)).of_eq ?_ fun seed => ?_
    · simp only [traceStep, Machine.step, mode, finish]
    · simp only [traceStep, Machine.step, mode_reseed, mode, finish]
  | halted =>
    refine (Reseeds.quiet (.failed .halted m)).of_eq ?_ fun seed => ?_
    · simp only [traceStep, Machine.step, mode]
    · simp only [traceStep, Machine.step, mode_reseed, mode]

theorem batch (count : Nat) (m : Machine δ κ τ) : Reseeds (traceBatch count) m := by
  induction count generalizing m with
  | zero => exact .quiet (.done () m)
  | succ count ih =>
    have going := (Reseeds.fetch m).andThen (fun _ m => m.traceBatch count)
      fun _ after _ => ih after
    cases mode : m.mode with
    | running =>
      refine going.of_eq ?_ fun seed => ?_
      · simp only [traceBatch, mode]
      · simp only [traceBatch, mode_reseed, mode]
    | awaiting | halted =>
      refine (Reseeds.quiet (.done () m)).of_eq ?_ fun seed => ?_
      · simp only [traceBatch, mode, finish]
      · simp only [traceBatch, mode_reseed, mode, finish]

end Reseeds

variable [Speaker τ]

namespace Reseeds

theorem cycle (m : Machine δ κ τ) : Reseeds traceCycle m := by
  have polled : Reseeds (fun m : Machine δ κ τ => .quiet m.pollKey) m := .quiet (seedless_pollKey m)
  have batched := polled.andThen (fun _ m => m.traceBatch m.batchSize)
    fun _ after _ => (batch after.batchSize after).of_eq rfl fun _ => rfl
  have closed := batched.andThen (fun _ m => .quiet m.endCycle)
    fun _ after _ => .quiet (seedless_endCycle after)
  exact closed.guarded

theorem runFrom (limit count : Nat) (m : Machine δ κ τ) :
    Reseeds (traceRunFrom limit count) m := by
  induction limit generalizing count m with
  | zero => exact .quiet (.done count m)
  | succ limit ih =>
    have asked (next : Machine δ κ τ → Traced (Machine δ κ τ) Nat)
        (later : Reseeds next (m.afterKeypad (Keypad.wantsExit m.keypad))) :
        Reseeds (fun m => next (m.afterKeypad (Keypad.wantsExit m.keypad))) m :=
      ⟨later.drawn, later.matched, later.outcome⟩
    by_cases leaves : (Keypad.wantsExit m.keypad).answer
    · have left : Reseeds (fun m : Machine δ κ τ =>
          .quiet (.done count (m.note (.exitRequested count))))
          (m.afterKeypad (Keypad.wantsExit m.keypad)) := .quiet ⟨rfl, fun _ => rfl⟩
      exact (asked _ left).of_eq (if_pos leaves) fun _ => if_pos leaves
    · have going := (cycle (m.afterKeypad (Keypad.wantsExit m.keypad))).andThen
        (fun _ m => m.traceRunFrom limit (count + 1)) fun _ after _ => ih _ after
      exact (asked _ going).of_eq (if_neg leaves) fun _ => if_neg leaves

theorem perform (action : Action δ κ τ) (m : Machine δ κ τ) :
    Reseeds (·.tracePerform action) m := by
  cases action with
  | step => exact (step m).map _
  | cycle => exact (cycle m).map _
  | run frames =>
    have noted := runFrom (cycleLimit frames) 0 (m.note (.running m.settings.rate m.batchSize))
    have run : Reseeds (fun m => traceRunFrom (cycleLimit frames) 0
        (m.note (.running m.settings.rate m.batchSize))) m :=
      ⟨noted.drawn, noted.matched, noted.outcome⟩
    exact run.map _
  | load program =>
    have quiet : Reseeds (fun m : Machine δ κ τ => .quiet (m.load program)) m :=
      .quiet (seedless_load m program)
    exact quiet.map _
  | loadFrom source =>
    have quiet : Reseeds (fun m : Machine δ κ τ => .quiet (m.loadFrom source)) m :=
      .quiet (seedless_loadFrom m source)
    exact quiet.map _
  | pressKey key =>
    have quiet : Reseeds (fun m : Machine δ κ τ => .quiet
      (.done (m.pressKey key).1 (m.pressKey key).2)) m := .quiet (seedless_pressKey m key)
    exact quiet.map _
  | tick | screen change | keypad change | speaker change => exact .quiet ⟨rfl, fun _ => rfl⟩

end Reseeds

/-- A whole history draws what it takes of the stream. -/
theorem drawn_performAll (m : Machine δ κ τ) (actions : List (Action δ κ τ)) :
    Drawn m.random (m.visits actions) (m.performAll actions).random := by
  induction actions generalizing m with
  | nil => exact .start m.random
  | cons action rest ih =>
    have first := (Reseeds.perform action m).drawn
    rw [outcome_tracePerform] at first
    exact first.trans (ih _)

private theorem perform_reseed {seed : UInt64} {m : Machine δ κ τ} {action : Action δ κ τ}
    (agree : ∀ visit ∈ (m.tracePerform action).visits, visit.Agrees seed) :
    ((m.reseed seed).perform action).result = (m.perform action).result ∧
      ((m.reseed seed).perform action).state = (m.perform action).state.reseed seed := by
  have same := (Reseeds.perform action m).outcome seed agree
  rw [outcome_tracePerform, outcome_tracePerform] at same
  rw [same]
  cases m.perform action <;> exact ⟨rfl, rfl⟩

theorem matched_visits (seed : UInt64) (m : Machine δ κ τ) (actions : List (Action δ κ τ)) :
    Matched seed (m.visits actions) ((m.reseed seed).visits actions) := by
  induction actions generalizing m with
  | nil => trivial
  | cons action rest ih =>
    apply ((Reseeds.perform action m).matched seed).append
    intro agree
    rw [(perform_reseed agree).2]
    exact ih _

theorem performAll_reseed {seed : UInt64} {m : Machine δ κ τ} {actions : List (Action δ κ τ)}
    (agree : ∀ visit ∈ m.visits actions, visit.Agrees seed) :
    (m.reseed seed).results actions = m.results actions ∧
      (m.reseed seed).performAll actions = (m.performAll actions).reseed seed := by
  induction actions generalizing m with
  | nil => exact ⟨rfl, rfl⟩
  | cons action rest ih =>
    rw [visits, List.forall_mem_append] at agree
    obtain ⟨result, state⟩ := perform_reseed agree.1
    obtain ⟨results, final⟩ := ih agree.2
    constructor
    · rw [Machine.results, Machine.results, result, state, results]
    · rw [performAll, performAll, List.foldl_cons, List.foldl_cons, state]
      exact final

/-- Which random bytes a machine `m` with a seed draws in its life, and what the seed has to do with
what becomes of it: a machine `m'` with another one is the same up to the first instruction that
draws a byte that differs, and for good if none does. -/
structure DrawsInOrder (seed other : UInt64) (m m' : Machine δ κ τ)
    (actions : List (Action δ κ τ)) : Prop where
  taken : (m.performAll actions).random.taken = (draws (m.visits actions)).length
  value (k : Nat) (draw : Draw) (found : (draws (m.visits actions))[k]? = some draw) :
    draw.value = byteAt (Random.keyOfSeed seed) k &&& draw.mask
  visits (n : Nat) (alike : Draw.Alike seed other (draws ((m.visits actions).take n))) :
    (m'.visits actions).take (n + 1) = ((m.visits actions).take (n + 1)).map (reseed other)
  results (alike : Draw.Alike seed other (draws (m.visits actions))) :
    m'.results actions = m.results actions
  final (alike : Draw.Alike seed other (draws (m.visits actions))) :
    m'.performAll actions = (m.performAll actions).reseed other

/-- The random bytes of a machine are drawn in the order of its seed, whatever is done with it. -/
theorem draws_in_order (settings : Settings) (seed other : UInt64) (screen : δ) (keypad : κ)
    (speaker : τ) (journal : Journal) (actions : List (Action δ κ τ)) :
    DrawsInOrder seed other
      (create { settings with seed := some seed } screen keypad speaker journal)
      (create { settings with seed := some other } screen keypad speaker journal) actions := by
  rw [← create_reseed settings seed other]
  obtain ⟨m, same⟩ : ∃ m, create { settings with seed := some seed } screen keypad speaker journal =
    m := ⟨_, rfl⟩
  have random : m.random = RandomStream.ofSeed seed := by
    rw [← same]
    rfl
  rw [same]
  have drawn := m.drawn_performAll actions
  rw [random] at drawn
  have agrees {visits : List (Machine δ κ τ)} {after : RandomStream}
      (drawn : Drawn (RandomStream.ofSeed seed) visits after)
      (alike : Draw.Alike seed other (draws visits)) : ∀ visit ∈ visits, visit.Agrees other := by
    apply drawn.agrees
    intro k draw found
    rw [show (RandomStream.ofSeed seed).taken + k = k from Nat.zero_add k]
    exact alike k draw found
  exact {
    taken := by
      rw [drawn.taken]
      exact Nat.zero_add _
    value k draw found := by
      have value := drawn.value found
      rwa [show (RandomStream.ofSeed seed).taken + k = k from Nat.zero_add k] at value
    visits n alike := by
      obtain ⟨_, earlier⟩ := drawn.take n
      exact (matched_visits other m actions).take_succ n (agrees earlier alike)
    results alike := (performAll_reseed (agrees drawn alike)).1
    final alike := (performAll_reseed (agrees drawn alike)).2 }

end Machine

end Chip8
