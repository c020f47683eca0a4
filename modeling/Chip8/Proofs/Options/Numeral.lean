import Chip8.Options.Reader

namespace Chip8.Options

/-- Whether a text is a number in decimal digits, zeros in front included. -/
structure Digits (n : Nat) (text : List Char) : Prop where
  nonempty : text ≠ []
  each : text.all Char.isDigit = true
  value : Nat.ofDigitChars 10 text 0 = n

instance (n : Nat) (text : List Char) : Decidable (Digits n text) :=
  decidable_of_iff (text ≠ [] ∧ text.all Char.isDigit = true ∧ Nat.ofDigitChars 10 text 0 = n)
    ⟨fun ⟨nonempty, each, value⟩ => ⟨nonempty, each, value⟩,
      fun digits => ⟨digits.nonempty, digits.each, digits.value⟩⟩

/-- The ways to write a number. -/
inductive Numeral (n : Nat) : List Char → Prop where
  | plain {text : List Char} (digits : Digits n text) : Numeral n text
  | plus {text : List Char} (digits : Digits n text) : Numeral n ('+' :: text)

theorem numeral_toString (n : Nat) : Numeral n (toString n).toList := by
  rw [Nat.toString_eq_ofList_toDigits, String.toList_ofList]
  exact .plain {
    nonempty := Nat.toDigits_ne_nil
    each := List.all_eq_true.mpr fun _ member =>
      Nat.isDigit_of_mem_toDigits (by decide) (by decide) member
    value := Nat.ofDigitChars_ten_toDigits }

variable {n : Nat} {text : List Char}

private theorem naturalOf?_of_digits (digits : Digits n text) : naturalOf? text = some n := by
  have value : Text.natOfDigits text = n := by
    rw [← digits.value, Nat.ofDigitChars_eq_foldl]
    rfl
  rw [naturalOf?, if_pos ⟨digits.nonempty, digits.each⟩, value]

/-- No numeral without a sign begins with the character of one. -/
private theorem Digits.head {c : Char} {rest : List Char} (digits : Digits n (c :: rest)) :
    c ≠ '-' ∧ c ≠ '+' ∧ c ≠ '=' := by
  have digit := List.all_eq_true.mp digits.each c List.mem_cons_self
  refine ⟨?_, ?_, ?_⟩ <;>
  · rintro rfl
    exact absurd digit (by decide)

private theorem integerOf?_of_numeral (numeral : Numeral n text) :
    integerOf? text = some (n : Int) := by
  cases numeral with
  | plain digits =>
    have read := naturalOf?_of_digits digits
    unfold integerOf?
    split
    · exact absurd rfl digits.head.1
    · exact absurd rfl digits.head.2.1
    · rw [read]
      rfl
  | plus digits =>
    rw [integerOf?, naturalOf?_of_digits digits]
    rfl

/-- A number is read where it is in range. -/
theorem rangedOf?_of_numeral {low high : Nat} (numeral : Numeral n text) (least : low ≤ n)
    (most : n ≤ high) : rangedOf? low high text = some n := by
  have within : (low : Int) ≤ n ∧ (n : Int) ≤ high := by omega
  simp only [rangedOf?, integerOf?_of_numeral numeral, if_pos within, Int.toNat_natCast]

theorem wordOf?_of_numeral {word : UInt64} (numeral : Numeral word.toNat text) :
    wordOf? text = some word := by
  have within : word.toNat < UInt64.size := word.toNat_lt_size
  cases numeral with
  | plain digits =>
    unfold wordOf?
    split
    · exact absurd rfl digits.head.2.1
    · simp only [naturalOf?_of_digits digits, if_pos within, UInt64.ofNat_toNat]
  | plus digits =>
    simp only [wordOf?, naturalOf?_of_digits digits, if_pos within, UInt64.ofNat_toNat]

/-- A numeral is not empty and begins with no sign of equality. -/
theorem Numeral.exists_cons (numeral : Numeral n text) :
    ∃ c rest, text = c :: rest ∧ c ≠ '=' := by
  cases numeral with
  | plain digits =>
    cases text with
    | nil => exact absurd rfl digits.nonempty
    | cons c rest => exact ⟨c, rest, rfl, digits.head.2.2⟩
  | plus digits => exact ⟨'+', _, rfl, by decide⟩

end Chip8.Options
