import Chip8.FrameBuffer

/-!
The picture as a terminal shows it: a box with the title `CHIP-8`, one character for every pixel.

The pixels are drawn on a canvas as the points of two planes, first those that are off, then those
that are on. A canvas counts rows upwards and its top row is zero, so a point has the column of its
pixel and the negated row. A canvas of a single row has no vertical extent and stays empty.
-/
namespace Chip8

namespace Grid

/-- The first and the last column of a canvas. -/
def xBounds (grid : Grid) : Int × Int := (0, grid.width - 1)

/-- The bottom row and the top row of a canvas. -/
def yBounds (grid : Grid) : Int × Int := (-(grid.height - 1), 0)

def bitAt (grid : Grid) (data : Vector UInt8 grid.byteCount) (place : Fin grid.area) : UInt8 :=
  have inside : place.val / 8 < grid.byteCount := by
    apply Nat.div_lt_of_lt_mul
    rw [grid.eight_mul_byteCount]
    exact place.isLt
  1 &&& (data[place.val / 8] >>> UInt8.ofNat (7 - place.val % 8))

/-- The points of the pixels of a packed picture that have a given bit, from the last place to the
first. -/
def plane (grid : Grid) (data : Vector UInt8 grid.byteCount) (bit : UInt8) : List (Int × Int) :=
  ((List.finRange grid.area).reverse.filter fun place => grid.bitAt data place == bit).map
    fun place => (Int.ofNat (place.val % grid.width), -Int.ofNat (place.val / grid.width))

end Grid

/-- What is drawn inside the box: a character for every pixel, row by row. -/
structure Canvas (grid : Grid) where
  cells : Vector Char grid.area

namespace Canvas

variable {grid : Grid}

def empty (grid : Grid) : Canvas grid := ⟨Vector.replicate _ ' '⟩

/-- The column and the row, counted downwards, of the cell on which a point falls. Nothing falls on
a canvas without extent. -/
def cellOf (grid : Grid) (point : Int × Int) : Option (Nat × Nat) :=
  let (left, right) := grid.xBounds
  let (bottom, top) := grid.yBounds
  if left ≤ point.1 ∧ point.1 ≤ right ∧ bottom ≤ point.2 ∧ point.2 ≤ top ∧ left ≠ right ∧
      bottom ≠ top then
    some ((point.1 - left).toNat, (top - point.2).toNat)
  else none

def mark (canvas : Canvas grid) (symbol : Char) (point : Int × Int) : Canvas grid :=
  match cellOf grid point with
  | some (x, y) => ⟨canvas.cells.put (grid.place x y) symbol⟩
  | none => canvas

/-- Draws one character at each of the points. -/
def draw (canvas : Canvas grid) (symbol : Char) (points : List (Int × Int)) : Canvas grid :=
  points.foldl (fun canvas point => canvas.mark symbol point) canvas

def row (canvas : Canvas grid) (y : Nat) : List Char :=
  (List.range grid.width).map fun x => canvas.cells.get (grid.place x y)

end Canvas

namespace FrameBuffer

variable {grid : Grid}

def canvas (frame : FrameBuffer grid) : Canvas grid :=
  ((Canvas.empty grid).draw '.' (grid.plane frame.packed 0)).draw '#'
    (grid.plane frame.packed 1)

def title : List Char := ['C', 'H', 'I', 'P', '-', '8']

/-- The rows of the terminal, border included. -/
def picture (frame : FrameBuffer grid) : List String :=
  let canvas := frame.canvas
  let bar := List.replicate grid.width '─'
  let upper := '┌' :: (title ++ bar.drop title.length) ++ ['┐']
  let inner := (List.range grid.height).map fun y => '│' :: canvas.row y ++ ['│']
  let lower := '└' :: bar ++ ['┘']
  (upper :: inner ++ [lower]).map String.ofList

end FrameBuffer

end Chip8
