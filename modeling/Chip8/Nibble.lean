namespace Chip8

/-- A number of four bits. -/
abbrev Nibble := Fin 16

/-- The low four bits of a number. -/
def Nibble.ofNat (n : Nat) : Nibble := Fin.ofNat 16 n

theorem Nibble.val_ofNat (n : Nat) : (Nibble.ofNat n).val = n % 16 := rfl

end Chip8

def Vector.put {α : Type} {n : Nat} (entries : Vector α n) (place : Fin n) (entry : α) :
    Vector α n :=
  entries.set place entry place.isLt

theorem Vector.get_put {α : Type} {n : Nat} (entries : Vector α n) (place other : Fin n)
    (entry : α) :
    (entries.put place entry).get other = if place = other then entry else entries.get other := by
  change (entries.set place entry place.isLt)[other.val] =
    if place = other then entry else entries[other.val]
  simp only [Vector.getElem_set, Fin.ext_iff]
