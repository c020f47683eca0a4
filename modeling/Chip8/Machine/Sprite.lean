import Chip8.Device

namespace Chip8.Sprite

/-- The columns of the set bits of a row, the top bit first. -/
def columns (row : UInt8) : List Nat :=
  (List.range 8).filter fun column => row.toNat.testBit (7 - column)

/-- The columns and rows of the set bits of a sprite, in the order of drawing. -/
def cells (rows : List UInt8) : List (Nat × Nat) :=
  rows.zipIdx.flatMap fun (row, k) => (columns row).map fun column => (column, k)

/-- What drawing a sprite does to a screen: the screen afterwards, whether a pixel went off, and
what the screen reported. -/
structure Drawn (δ : Type) where
  screen : δ
  collision : Bool := false
  events : List Event := []

/-- Inverts the pixel of one cell of a sprite whose top left corner is at `left` and `top`. -/
def drawCell {δ : Type} [Screen δ] (left top : Nat) (drawn : Drawn δ) (cell : Nat × Nat) :
    Drawn δ :=
  let reply := Screen.toggle drawn.screen (left + cell.1) (top + cell.2)
  ⟨reply.device, drawn.collision || reply.answer, drawn.events ++ reply.events⟩

/-- Draws a sprite with its top left corner at `left` and `top`. -/
def draw {δ : Type} [Screen δ] (screen : δ) (left top : Nat) (rows : List UInt8) : Drawn δ :=
  (cells rows).foldl (drawCell left top) ⟨screen, false, []⟩

end Chip8.Sprite
