import Chip8.Options.Reader

namespace Chip8.Options

variable {α β : Type}

/-- Whether all that a reading accepts has a property. -/
private def Accepts (property : α → Prop) (reading : Except Refusal α) : Prop :=
  ∀ result, reading = .ok result → property result

private theorem Accepts.bind {property : α → Prop} {later : β → Prop}
    {reading : Except Refusal α} {next : α → Except Refusal β} (first : Accepts property reading)
    (rest : ∀ result, property result → Accepts later (next result)) :
    Accepts later (reading >>= next) := by
  intro result accepted
  cases reading with
  | error refusal => cases accepted
  | ok value => exact rest value (first value rfl) result accepted

private theorem Accepts.ok {property : α → Prop} {result : α} (holds : property result) :
    Accepts property (.ok result) := by
  intro other same
  cases same
  exact holds

private theorem Accepts.error {property : α → Prop} {refusal : Refusal} :
    Accepts property (.error refusal) := nofun

/-- A property of the options given so far that no further option takes away. -/
structure Given.Kept (property : Given → Prop) : Prop where
  rom (given : Given) (text : String) : property given → property { given with rom := some text }
  put (given after : Given) (setting : Setting) (value : List Char)
    (put : given.put? setting value = some after) : property given → property after
  mute (given : Given) : property given → property { given with mute := true }
  inclusive (given : Given) : property given → property { given with inclusive := true }

namespace Given.Kept

variable {property : Given → Prop} (kept : Given.Kept property)

include kept

private theorem set {given : Given} (holds : property given) (setting : Setting)
    (value : List Char) : Accepts property (given.set setting value) := by
  unfold Given.set
  split
  · exact .error
  · split
    · rename_i after put
      exact .ok (kept.put given after setting value put holds)
    · exact .error

private theorem turnOn {given : Given} (holds : property given) (switch : Switch) :
    Accepts property (given.turnOn switch) := by
  unfold Given.turnOn
  split
  · split
    · exact .error
    · exact .ok (kept.mute given holds)
  · split
    · exact .error
    · exact .ok (kept.inclusive given holds)
  · exact .error
  · exact .error

variable {reader : Reader} (holds : property reader.given)

include holds

private theorem settle : Accepts (fun reader => property reader.given) reader.settle := by
  unfold Reader.settle
  split
  · exact .ok holds
  · exact .error
  · exact (kept.set holds _ _).bind fun _ holds => .ok holds
  · split
    · exact .error
    · exact .ok (kept.rom reader.given _ holds)

private theorem readAttached (setting : Setting) (value : List Char) :
    Accepts (fun reader => property reader.given) (reader.readAttached setting value) :=
  (kept.settle holds).bind fun _ holds =>
    (kept.set holds setting value).bind fun _ holds => .ok holds

private theorem readAwaited (setting : Setting) :
    Accepts (fun reader => property reader.given) (reader.readAwaited setting) :=
  (kept.settle holds).bind fun _ holds => .ok holds

private theorem readSwitch (switch : Switch) :
    Accepts (fun reader => property reader.given) (reader.readSwitch switch) :=
  (kept.settle holds).bind fun _ holds =>
    (kept.turnOn holds switch).bind fun _ holds => .ok holds

private theorem readLong (name : List Char) (value : Option (List Char)) :
    Accepts (fun reader => property reader.given) (reader.readLong name value) := by
  unfold Reader.readLong
  split
  · exact kept.readAttached holds _ _
  · exact kept.readAwaited holds _
  · exact kept.readSwitch holds _
  · exact .error
  · exact .error

private theorem readCluster (letters : List Char) :
    Accepts (fun reader => property reader.given) (reader.readCluster letters) := by
  induction letters generalizing reader with
  | nil => exact .ok holds
  | cons letter rest ih =>
    unfold Reader.readCluster
    split
    · split
      · exact kept.readAwaited holds _
      · exact kept.readAttached holds _ _
      · exact kept.readAttached holds _ _
    · exact (kept.readSwitch holds _).bind fun _ holds => ih holds
    · exact .error

private theorem readText (text : List Char) :
    Accepts (fun reader => property reader.given) (reader.readText text) := by
  unfold Reader.readText
  split
  · exact .ok holds
  · split
    · exact .error
    · exact (kept.settle holds).bind fun _ holds => .ok holds

private theorem read (argument : String) :
    Accepts (fun reader => property reader.given) (reader.read argument) := by
  unfold Reader.read
  split
  · exact kept.readText holds _
  · split
    · exact .ok holds
    · exact kept.readLong holds _ _
    · exact kept.readCluster holds _
    · exact kept.readText holds _

private theorem readAll (arguments : List String) :
    Accepts (fun reader => property reader.given) (reader.readAll arguments) := by
  induction arguments generalizing reader with
  | nil => exact .ok holds
  | cons argument rest ih => exact (kept.read holds argument).bind fun _ holds => ih holds

omit holds

/-- What holds without an option and is kept holds of the options of every accepted command line. -/
theorem accepted {arguments : List String} {options : Options} (initial : property {})
    (accepted : ofArguments arguments = .ok options) :
    ∃ given, property given ∧ given.complete = .ok options := by
  have completes : Accepts (fun options => ∃ given, property given ∧ given.complete = .ok options)
      (ofArguments arguments) :=
    (kept.readAll initial arguments).bind fun _ holds =>
      (kept.settle holds).bind fun reader holds _ completed => ⟨reader.given, holds, completed⟩
  exact completes options accepted

end Given.Kept

theorem bounds_of_rangedOf? {low high n : Nat} {text : List Char}
    (read : rangedOf? low high text = some n) : low ≤ n ∧ n ≤ high := by
  unfold rangedOf? at read
  split at read
  · split at read
    · cases read
      omega
    · cases read
  · cases read

private theorem speed_kept :
    Given.Kept fun given => ∀ n, given.speed = some n → 1 ≤ n ∧ n ≤ maxSpeed where
  rom _ _ holds := holds
  mute _ holds := holds
  inclusive _ holds := holds
  put given after setting value put holds := by
    cases setting with
    | speed =>
      obtain ⟨n, read, same⟩ := Option.map_eq_some_iff.mp put
      cases same
      intro other same
      cases same
      exact bounds_of_rangedOf? read
    | fps | tone | seed | frames =>
      obtain ⟨_, _, same⟩ := Option.map_eq_some_iff.mp put
      cases same
      exact holds

/-- An accepted command line asks for instructions in each cycle, and not for too many. -/
theorem speed_of_accepted {arguments : List String} {options : Options}
    (accepted : ofArguments arguments = .ok options) :
    1 ≤ options.speed ∧ options.speed ≤ maxSpeed := by
  obtain ⟨given, bounded, completed⟩ := speed_kept.accepted nofun accepted
  unfold Given.complete at completed
  split at completed
  · cases completed
  · cases completed
    dsimp only
    cases speed : given.speed with
    | none => decide
    | some n => exact bounded n speed

/-- Of what is accepted the rate alone is left to check. -/
theorem check_of_accepted {arguments : List String} {options : Options}
    (accepted : ofArguments arguments = .ok options) (rate : options.rate.InRange maxRate) :
    options.check = .ok () := by
  have positive : options.speed ≠ 0 := Nat.ne_of_gt (speed_of_accepted accepted).1
  simp only [check, rate, not_true_eq_false, if_false, if_neg positive]

end Chip8.Options
