import Chip8.Nibble

namespace Chip8

/-- The size of a picture. A row is a whole number of bytes, and there is at least one. -/
structure Grid where
  width : Nat
  height : Nat
  width_pos : 0 < width
  eight_dvd_width : 8 ∣ width
  height_pos : 0 < height
  deriving DecidableEq

/-- A size that no picture can have. -/
structure Grid.Refused where
  width : Nat
  height : Nat
  deriving DecidableEq, Repr

def Grid.Refused.message (refused : Grid.Refused) : String :=
  s!"can't pack a {refused.width}x{refused.height} frame buffer"

/-- The kind of error that a user sees: what was asked for makes no sense. -/
def Grid.Refused.kind (_ : Grid.Refused) : String := "InvalidInput"

namespace Grid

def ofSize (width height : Nat) : Except Refused Grid :=
  if legal : 0 < width ∧ 8 ∣ width ∧ 0 < height then
    .ok ⟨width, height, legal.1, legal.2.1, legal.2.2⟩
  else .error ⟨width, height⟩

/-- The grid of the console's own display. -/
def standard : Grid := ⟨64, 32, by decide, by decide, by decide⟩

def area (grid : Grid) : Nat := grid.width * grid.height

/-- Number of bytes that the pixels fill. -/
def byteCount (grid : Grid) : Nat := grid.area / 8

theorem eight_mul_byteCount (grid : Grid) : 8 * grid.byteCount = grid.area :=
  Nat.mul_div_cancel' (Nat.dvd_mul_right_of_dvd grid.eight_dvd_width grid.height)

/-- Place of the pixel named by `x` and `y`, counted row by row. -/
def place (grid : Grid) (x y : Nat) : Fin grid.area where
  val := y % grid.height * grid.width + x % grid.width
  isLt := by
    have column : x % grid.width < grid.width := Nat.mod_lt _ grid.width_pos
    have row : y % grid.height + 1 ≤ grid.height := Nat.mod_lt _ grid.height_pos
    calc y % grid.height * grid.width + x % grid.width
        < (y % grid.height + 1) * grid.width := by rw [Nat.succ_mul]; omega
      _ ≤ grid.height * grid.width := Nat.mul_le_mul_right _ row
      _ = grid.area := Nat.mul_comm _ _

/-- Two pairs of numbers name one pixel exactly when they agree up to wrapping around. -/
theorem place_eq_iff (grid : Grid) (x y x' y' : Nat) :
    grid.place x y = grid.place x' y' ↔
      x % grid.width = x' % grid.width ∧ y % grid.height = y' % grid.height := by
  have column : x % grid.width < grid.width := Nat.mod_lt _ grid.width_pos
  have column' : x' % grid.width < grid.width := Nat.mod_lt _ grid.width_pos
  simp only [place, Fin.mk.injEq]
  constructor
  · intro same
    have columns := congrArg (· % grid.width) same
    simp only [Nat.mul_add_mod_self_right, Nat.mod_mod] at columns
    rw [columns] at same
    exact ⟨columns, Nat.eq_of_mul_eq_mul_right grid.width_pos (Nat.add_right_cancel same)⟩
  · intro ⟨columns, rows⟩
    rw [columns, rows]

/-- The byte that holds the pixel named by `x` and `y`, and the bit of the pixel in it. Of the eight
pixels of a byte the first has the top bit. -/
def locate (grid : Grid) (x y : Nat) : Fin grid.byteCount × UInt8 :=
  let place := grid.place x y
  have inside : place.val < 8 * grid.byteCount := by
    rw [grid.eight_mul_byteCount]
    exact place.isLt
  (⟨place.val / 8, Nat.div_lt_of_lt_mul inside⟩, 0x80 >>> UInt8.ofNat (place.val % 8))

end Grid

/-- A picture: its pixels row by row, packed eight to a byte. -/
structure FrameBuffer (grid : Grid) where
  packed : Vector UInt8 grid.byteCount
  deriving DecidableEq

namespace FrameBuffer

variable {grid : Grid}

def blank (grid : Grid) : FrameBuffer grid := ⟨Vector.replicate _ 0⟩

def clear (_ : FrameBuffer grid) : FrameBuffer grid := blank grid

def isSet (frame : FrameBuffer grid) (x y : Nat) : Bool :=
  let (byte, mask) := grid.locate x y
  frame.packed.get byte &&& mask != 0

/-- Inverts one pixel and answers whether it was on. -/
def toggle (frame : FrameBuffer grid) (x y : Nat) : Bool × FrameBuffer grid :=
  let (byte, mask) := grid.locate x y
  (frame.packed.get byte &&& mask != 0, ⟨frame.packed.put byte (frame.packed.get byte ^^^ mask)⟩)

def bytes (frame : FrameBuffer grid) : List UInt8 := frame.packed.toList

def ones (byte : UInt8) : Nat := (List.range 8).countP byte.toNat.testBit

def lit (frame : FrameBuffer grid) : Nat :=
  frame.bytes.foldl (fun total byte => total + ones byte) 0

end FrameBuffer

end Chip8
