namespace Chip8.Text

/-- Whether one of some ranges, whose ends belong to them, has a character. -/
def isAmong (ranges : List (Nat × Nat)) (c : Char) : Bool :=
  ranges.any fun (low, high) => low ≤ c.toNat && c.toNat ≤ high

end Chip8.Text
