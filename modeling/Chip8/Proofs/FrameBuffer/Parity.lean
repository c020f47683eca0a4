import Chip8.Device.Headless
import Chip8.Proofs.FrameBuffer.Packing
import Mathlib.Algebra.Ring.Parity

/-! Pictures that come of inverting pixels and of clearing, in any order. A pixel is on exactly if
it has been inverted an odd number of times since everything was last cleared, and the bytes of the
picture say so bit by bit. -/
namespace Chip8

/-- What is done to the pixels of a screen. -/
inductive Stroke where
  | toggle (x y : Nat)
  | clear
  deriving DecidableEq, Repr

namespace Stroke

/-- Whether a stroke inverts the pixel named by `x` and `y`. -/
def hits (grid : Grid) (x y : Nat) : Stroke → Bool
  | toggle x' y' => x' % grid.width == x % grid.width && y' % grid.height == y % grid.height
  | clear => false

/-- How often a pixel has been inverted since everything was last cleared. -/
def hitsSinceClear (grid : Grid) (x y : Nat) (strokes : List Stroke) : Nat :=
  (strokes.reverse.takeWhile (· ≠ clear)).countP (hits grid x y)

theorem hits_toggle_iff (grid : Grid) (x y x' y' : Nat) :
    hits grid x y (toggle x' y') ↔ grid.place x' y' = grid.place x y := by
  rw [grid.place_eq_iff, hits, Bool.and_eq_true, beq_iff_eq, beq_iff_eq]

private theorem hitsSinceClear_clear (grid : Grid) (x y : Nat) (strokes : List Stroke) :
    hitsSinceClear grid x y (strokes ++ [clear]) = 0 := by
  simp [hitsSinceClear]

private theorem hitsSinceClear_toggle (grid : Grid) (x y x' y' : Nat) (strokes : List Stroke) :
    hitsSinceClear grid x y (strokes ++ [toggle x' y']) =
      hitsSinceClear grid x y strokes + if grid.place x' y' = grid.place x y then 1 else 0 := by
  simp [hitsSinceClear, List.countP_cons, hits_toggle_iff]

end Stroke

open Stroke

namespace FrameBuffer

variable {grid : Grid}

/-- A picture after one more stroke. -/
def stroke (frame : FrameBuffer grid) : Stroke → FrameBuffer grid
  | .toggle x y => (frame.toggle x y).2
  | .clear => frame.clear

def drawn (grid : Grid) (strokes : List Stroke) : FrameBuffer grid :=
  strokes.foldl stroke (blank grid)

theorem isSet_drawn (strokes : List Stroke) (x y : Nat) :
    (drawn grid strokes).isSet x y ↔ Odd (hitsSinceClear grid x y strokes) := by
  induction strokes using List.reverseRecOn with
  | nil => simp [drawn, hitsSinceClear]
  | append_singleton strokes stroke ih =>
    have onward : drawn grid (strokes ++ [stroke]) = (drawn grid strokes).stroke stroke := by
      rw [drawn, List.foldl_concat]
      rfl
    rw [onward]
    cases stroke with
    | clear =>
      rw [hitsSinceClear_clear]
      simp [FrameBuffer.stroke, FrameBuffer.clear]
    | toggle x' y' =>
      rw [FrameBuffer.stroke, isSet_toggle, hitsSinceClear_toggle]
      by_cases same : grid.place x' y' = grid.place x y
      · have pixel : (drawn grid strokes).isSet x' y' = (drawn grid strokes).isSet x y := by
          rw [isSet_eq_pixel, isSet_eq_pixel, same]
        rw [if_pos same, if_pos same, Nat.odd_add_one, ← ih, pixel, Bool.not_eq_true',
          Bool.not_eq_true]
      · rw [if_neg same, if_neg same, Nat.add_zero]
        exact ih

/-- The bit of a pixel of the grid in the packed picture. -/
theorem packed_isSet (frame : FrameBuffer grid) {x y : Nat} (column : x < grid.width)
    (row : y < grid.height) :
    ∃ byte, frame.bytes[(y * grid.width + x) / 8]? = some byte ∧
      byte.toNat.testBit (7 - x % 8) = frame.isSet x y := by
  obtain ⟨byte, found, bit⟩ := frame.packed_pixel (grid.place x y).isLt
  have aligned : (y * grid.width + x) % 8 = x % 8 := by
    obtain ⟨blocks, same⟩ := grid.eight_dvd_width
    rw [same, Nat.mul_left_comm, Nat.mul_add_mod]
  rw [grid.val_place column row] at found bit
  rw [aligned] at bit
  refine ⟨byte, found, ?_⟩
  rw [bit, isSet_eq_pixel, grid.val_place column row]

end FrameBuffer

namespace Screen

variable {δ : Type} [Screen δ]

/-- A screen after one more stroke. -/
def stroke (screen : δ) : Stroke → δ
  | .toggle x y => (Screen.toggle screen x y).device
  | .clear => Screen.clear screen

def drawn (screen : δ) (strokes : List Stroke) : δ := strokes.foldl stroke screen

/-- A screen that does to a picture what is done to the screen leaves the picture of the strokes. -/
theorem frame_drawn {grid : Grid} (frame : δ → FrameBuffer grid)
    (follows : ∀ screen next, frame (stroke screen next) = (frame screen).stroke next)
    (screen : δ) (strokes : List Stroke) :
    frame (drawn screen strokes) = strokes.foldl FrameBuffer.stroke (frame screen) := by
  induction strokes generalizing screen with
  | nil => rfl
  | cons next rest ih =>
    rw [drawn, List.foldl_cons, List.foldl_cons, ← follows]
    exact ih _

end Screen

theorem HeadlessScreen.frame_stroke {grid : Grid} (screen : HeadlessScreen grid) (next : Stroke) :
    (Screen.stroke screen next).frame = screen.frame.stroke next := by
  cases next <;> rfl

namespace FrameBuffer

variable {grid : Grid}

/-- What the picture of a screen tells after strokes, by itself and by its bytes. -/
structure Tallies (screen : HeadlessScreen grid) (strokes : List Stroke) : Prop where
  isSet (x y : Nat) : screen.frame.isSet x y ↔ Odd (hitsSinceClear grid x y strokes)
  answer (x y : Nat) : (screen.frame.toggle x y).1 = screen.frame.isSet x y ∧
    (Screen.toggle screen x y).answer = screen.frame.isSet x y
  toggled (x y x' y' : Nat) : (Screen.toggle screen x y).device.frame.isSet x' y' =
    if x % grid.width = x' % grid.width ∧ y % grid.height = y' % grid.height then
      !screen.frame.isSet x' y'
    else screen.frame.isSet x' y'
  lit : screen.frame.lit =
    (((Finset.range grid.width) ×ˢ (Finset.range grid.height)).filter fun cell =>
      screen.frame.isSet cell.1 cell.2).card
  length : screen.frame.bytes.length = grid.width * grid.height / 8
  packed (x y : Nat) (column : x < grid.width) (row : y < grid.height) :
    ∃ byte, screen.frame.bytes[(y * grid.width + x) / 8]? = some byte ∧
      byte.toNat.testBit (7 - x % 8) = screen.frame.isSet x y
  bytes (other : FrameBuffer grid) :
    screen.frame.bytes = other.bytes ↔ ∀ x y, screen.frame.isSet x y = other.isSet x y

/-- A picture of any size that there is keeps the parity of its strokes, and there are all sizes but
those whose rows are not whole bytes or that have no pixel. -/
theorem parity_of_strokes (grid : Grid) (strokes : List Stroke) :
    Tallies (Screen.drawn (HeadlessScreen.blank grid) strokes) strokes ∧
      (Screen.drawn (HeadlessScreen.blank grid) strokes).frame = drawn grid strokes ∧
      ∀ width height, if width = 0 ∨ ¬ 8 ∣ width ∨ height = 0 then
          ∃ refused, Grid.ofSize width height = .error refused ∧ refused.kind = "InvalidInput" ∧
            refused.width = width ∧ refused.height = height
        else ∃ grid, Grid.ofSize width height = .ok grid ∧ grid.width = width ∧
          grid.height = height := by
  have frame := Screen.frame_drawn HeadlessScreen.frame HeadlessScreen.frame_stroke
    (HeadlessScreen.blank grid) strokes
  refine ⟨?_, frame, ?_⟩
  · generalize Screen.drawn (HeadlessScreen.blank grid) strokes = screen at frame ⊢
    exact {
      isSet x y := by
        rw [frame]
        exact isSet_drawn strokes x y
      answer x y := ⟨screen.frame.lit_toggle x y, screen.frame.lit_toggle x y⟩
      toggled x y x' y' := by
        have toggled := screen.frame.isSet_toggle x y x' y'
        simp only [Grid.place_eq_iff] at toggled
        refine toggled.trans ?_
        split
        · rename_i same
          rw [isSet_eq_pixel, isSet_eq_pixel, (grid.place_eq_iff x y x' y').mpr same]
        · rfl
      lit := lit_eq_card _
      length := length_bytes _
      packed x y column row := packed_isSet _ column row
      bytes other := bytes_inj }
  · intro width height
    have cases := Grid.ofSize_cases width height
    split at cases
    · rename_i bad
      rw [if_pos bad]
      exact ⟨_, cases, rfl, rfl, rfl⟩
    · rename_i good
      rw [if_neg good]
      exact cases

end FrameBuffer

end Chip8
