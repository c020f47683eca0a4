import Chip8.Device.Headless
import Chip8.Device.Terminal
import Chip8.Machine.Execute
import Chip8.Proofs.FrameBuffer.Packing
import Mathlib.Algebra.BigOperators.Group.Finset.Piecewise
import Mathlib.Algebra.BigOperators.Group.Finset.Sigma
import Mathlib.Algebra.Ring.Parity
import Mathlib.Data.Nat.Count

/-! Drawing is exclusive or. The set bits of a sprite land on the pixels of the grid, several of
them on one pixel where the sprite wraps around, and each of them inverts the pixel that it lands
on. What is left of a pixel is told by how often it was hit, and so is whether anything went off on
the way. -/
namespace Chip8

variable {δ : Type} {grid : Grid}

/-- Whether a screen keeps a picture in which what is done to the screen is done too. -/
structure Screen.Keeps [Screen δ] (picture : δ → FrameBuffer grid) : Prop where
  toggle (screen : δ) (x y : Nat) :
    picture (Screen.toggle screen x y).device = ((picture screen).toggle x y).2
  answer (screen : δ) (x y : Nat) :
    (Screen.toggle screen x y).answer = (picture screen).isSet x y

/-- Whether something goes off on the way from a picture: a pixel is hit that is on, or hit twice.
`hits` tells how often each pixel is hit. -/
def FrameBuffer.Collides (frame : FrameBuffer grid) (hits : Nat → Nat → Nat) : Prop :=
  ∃ x < grid.width, ∃ y < grid.height, (1 ≤ hits x y ∧ frame.isSet x y) ∨ 2 ≤ hits x y

theorem FrameBuffer.collides_congr {frame : FrameBuffer grid} {hits hits' : Nat → Nat → Nat}
    (same : ∀ x < grid.width, ∀ y < grid.height, hits x y = hits' x y) :
    frame.Collides hits ↔ frame.Collides hits' := by
  constructor
  · rintro ⟨x, column, y, row, collides⟩
    exact ⟨x, column, y, row, by rwa [← same x column y row]⟩
  · rintro ⟨x, column, y, row, collides⟩
    exact ⟨x, column, y, row, by rwa [same x column y row]⟩

namespace Sprite

/-- How many of some cells land on a pixel, of a sprite with its top left corner at `left` and
`top`. -/
def landings (grid : Grid) (left top : Nat) (cells : List (Nat × Nat)) (x y : Nat) : Nat :=
  cells.countP fun cell => grid.place (left + cell.1) (top + cell.2) = grid.place x y

section Cells

variable {left top : Nat} {cell : Nat × Nat} {rest : List (Nat × Nat)} {x y : Nat}

private theorem landings_cons_hit
    (hit : grid.place (left + cell.1) (top + cell.2) = grid.place x y) :
    landings grid left top (cell :: rest) x y = landings grid left top rest x y + 1 :=
  List.countP_cons_of_pos (decide_eq_true hit)

private theorem landings_cons_missed
    (missed : grid.place (left + cell.1) (top + cell.2) ≠ grid.place x y) :
    landings grid left top (cell :: rest) x y = landings grid left top rest x y :=
  List.countP_cons_of_neg (by simpa using missed)

/-- What has gone off when the first cell is drawn, and what goes off later. -/
private theorem collides_cons (frame : FrameBuffer grid) :
    frame.Collides (landings grid left top (cell :: rest)) ↔
      frame.isSet (left + cell.1) (top + cell.2) ∨
        (frame.toggle (left + cell.1) (top + cell.2)).2.Collides
          (landings grid left top rest) := by
  constructor
  · rintro ⟨x, column, y, row, collides⟩
    by_cases hit : grid.place (left + cell.1) (top + cell.2) = grid.place x y
    · have pixel : frame.isSet x y = frame.isSet (left + cell.1) (top + cell.2) := by
        rw [FrameBuffer.isSet_eq_pixel, FrameBuffer.isSet_eq_pixel, hit]
      rw [landings_cons_hit hit, pixel] at collides
      by_cases lit : frame.isSet (left + cell.1) (top + cell.2)
      · exact .inl lit
      · have again : 1 ≤ landings grid left top rest x y := by
          rcases collides with ⟨_, on⟩ | twice
          · exact absurd on lit
          · exact Nat.le_of_succ_le_succ twice
        refine .inr ⟨x, column, y, row, .inl ⟨again, ?_⟩⟩
        rw [FrameBuffer.isSet_toggle, if_pos hit, Bool.not_eq_true', Bool.eq_false_iff]
        exact lit
    · rw [landings_cons_missed hit] at collides
      refine .inr ⟨x, column, y, row, ?_⟩
      rwa [FrameBuffer.isSet_toggle, if_neg hit]
  · rintro (lit | ⟨x, column, y, row, collides⟩)
    · have hit : grid.place (left + cell.1) (top + cell.2) =
          grid.place ((left + cell.1) % grid.width) ((top + cell.2) % grid.height) := by
        rw [Grid.place_eq_iff, Nat.mod_mod, Nat.mod_mod]
        exact ⟨rfl, rfl⟩
      have column := Nat.mod_lt (left + cell.1) grid.width_pos
      have row := Nat.mod_lt (top + cell.2) grid.height_pos
      refine ⟨_, column, _, row, .inl ⟨?_, ?_⟩⟩
      · rw [landings_cons_hit hit]
        exact Nat.succ_pos _
      · rwa [FrameBuffer.isSet_eq_pixel, ← hit, ← FrameBuffer.isSet_eq_pixel]
    · refine ⟨x, column, y, row, ?_⟩
      by_cases hit : grid.place (left + cell.1) (top + cell.2) = grid.place x y
      · rw [landings_cons_hit hit]
        rcases collides with ⟨once, _⟩ | twice
        · exact .inr (Nat.succ_le_succ once)
        · exact .inr (Nat.le_succ_of_le twice)
      · rw [FrameBuffer.isSet_toggle, if_neg hit] at collides
        rwa [landings_cons_missed hit]

end Cells

section Fold

variable [Screen δ] {picture : δ → FrameBuffer grid} (keeps : Screen.Keeps picture)
  {left top : Nat} (cells : List (Nat × Nat)) (drawn : Drawn δ)

include keeps

/-- The parity of its hits tells what becomes of a pixel. -/
theorem isSet_foldl (x y : Nat) :
    (picture (cells.foldl (drawCell left top) drawn).screen).isSet x y =
      ((picture drawn.screen).isSet x y ^^ decide (Odd (landings grid left top cells x y))) := by
  induction cells generalizing drawn with
  | nil => simp [landings]
  | cons cell rest ih =>
    rw [List.foldl_cons, ih]
    simp only [drawCell, keeps.toggle, FrameBuffer.isSet_toggle]
    by_cases hit : grid.place (left + cell.1) (top + cell.2) = grid.place x y
    · rw [landings_cons_hit hit, if_pos hit, FrameBuffer.isSet_eq_pixel, hit,
        ← FrameBuffer.isSet_eq_pixel]
      simp only [Nat.odd_add_one, decide_not, Bool.not_xor, Bool.xor_not]
    · rw [landings_cons_missed hit, if_neg hit]

/-- A collision was there before, or a pixel has gone off. -/
theorem collision_foldl :
    (cells.foldl (drawCell left top) drawn).collision ↔
      drawn.collision ∨ (picture drawn.screen).Collides (landings grid left top cells) := by
  induction cells generalizing drawn with
  | nil => simp [FrameBuffer.Collides, landings]
  | cons cell rest ih =>
    rw [List.foldl_cons, ih, collides_cons, ← or_assoc]
    simp only [drawCell, keeps.toggle, keeps.answer, Bool.or_eq_true]

end Fold

section Rows

variable (byteAt : Nat → UInt8) (start n : Nat)

private theorem zipIdx_rows : ((List.range' start n).map byteAt).zipIdx =
    (List.range n).map fun row => (byteAt (start + row), row) := by
  apply List.ext_getElem
  · simp
  · intro k inside inside'
    simp

private theorem countP_columns (row : Nat) (lands : Nat × Nat → Bool) :
    ((columns (byteAt (start + row))).map fun column => (column, row)).countP lands =
      ((Finset.range 8).filter fun column =>
        (byteAt (start + row)).toNat.testBit (7 - column) ∧ lands (column, row)).card := by
  rw [columns, List.countP_map, List.countP_filter, ← Nat.count_eq_card_filter_range, Nat.count]
  apply List.countP_congr
  simp [and_comm]

/-- The cells of a sprite are counted row by row. -/
theorem countP_cells (lands : Nat × Nat → Bool) :
    (cells ((List.range' start n).map byteAt)).countP lands =
      ((Finset.range 8 ×ˢ Finset.range n).filter fun cell =>
        (byteAt (start + cell.2)).toNat.testBit (7 - cell.1) ∧ lands cell).card := by
  rw [cells, zipIdx_rows, List.countP_flatMap, List.map_map, Finset.card_filter,
    Finset.sum_product_right]
  simp only [← Finset.card_filter, ← countP_columns]
  rfl

end Rows

end Sprite

namespace Machine

variable {κ τ : Type}

/-- How many set bits land on a pixel when the `n` bytes from the index on are drawn at the place
named by two registers. A bit is given by its column and its row. -/
def hits (m : Machine δ κ τ) (grid : Grid) (x y : Register) (n px py : Nat) : Nat :=
  ((Finset.range 8 ×ˢ Finset.range n).filter fun cell =>
    (m.memory.byteAt (m.i.toNat + cell.2)).toNat.testBit (7 - cell.1) ∧
      ((m.v.get x).toNat + cell.1) % grid.width = px ∧
      ((m.v.get y).toNat + cell.2) % grid.height = py).card

theorem landings_eq_hits (m : Machine δ κ τ) (x y : Register) (n : Nat) {px py : Nat}
    (column : px < grid.width) (row : py < grid.height) :
    Sprite.landings grid (m.v.get x).toNat (m.v.get y).toNat
      (Sprite.cells ((List.range' m.i.toNat n).map m.memory.byteAt)) px py =
      m.hits grid x y n px py := by
  rw [Sprite.landings, Sprite.countP_cells, hits]
  simp only [decide_eq_true_eq, Grid.place_eq_iff, Nat.mod_eq_of_lt column, Nat.mod_eq_of_lt row]

/-- What drawing comes to: each pixel inverted as often as it is hit, the flag for what went off on
the way, and nothing else. -/
structure Xors [Screen δ] [Keypad κ] (picture : δ → FrameBuffer grid) (m after : Machine δ κ τ)
    (x y : Register) (n : Nat) : Prop where
  drawn : m.draw x y n = .done () after
  executed (k : Nibble) (rows : k.val = n) : m.execute (.draw x y k) = .done () after
  pixel {px py : Nat} (column : px < grid.width) (row : py < grid.height) :
    (picture after.screen).isSet px py =
      ((picture m.screen).isSet px py ^^ decide (Odd (m.hits grid x y n px py)))
  flag : (picture m.screen).Collides (m.hits grid x y n) ∧ after.v.get flagRegister = 1 ∨
    ¬ (picture m.screen).Collides (m.hits grid x y n) ∧ after.v.get flagRegister = 0
  registers (r : Register) (other : r ≠ flagRegister) : after.v.get r = m.v.get r
  rest : after = { m with v := after.v, screen := after.screen, journal := after.journal }

variable [Screen δ]

private theorem draw_of_fits (m : Machine δ κ τ) (x y : Register) {n : Nat}
    (fits : m.i.toNat + n ≤ 4096) :
    ∃ sprite after, sprite = Sprite.draw m.screen (m.v.get x).toNat (m.v.get y).toNat
        ((List.range' m.i.toNat n).map m.memory.byteAt) ∧
      m.draw x y n = .done () after ∧ after.screen = sprite.screen ∧
      after.v = m.v.put flagRegister (flag sprite.collision) ∧
      after = { m with v := after.v, screen := after.screen, journal := after.journal } := by
  have read : m.memory.slice m.i n = .ok ((List.range' m.i.toNat n).map m.memory.byteAt) :=
    if_pos fits
  unfold draw
  rw [read]
  exact ⟨_, _, rfl, rfl, rfl, rfl, rfl⟩

private theorem xors_of_keeps [Keypad κ] {picture : δ → FrameBuffer grid}
    (keeps : Screen.Keeps picture) (m : Machine δ κ τ) (x y : Register) {n : Nat}
    (fits : m.i.toNat + n ≤ 4096) : ∃ after, Xors picture m after x y n := by
  obtain ⟨sprite, after, same, drawn, screen, registers, rest⟩ := m.draw_of_fits x y fits
  have collision : sprite.collision ↔ (picture m.screen).Collides (m.hits grid x y n) := by
    rw [same, Sprite.draw, Sprite.collision_foldl keeps, FrameBuffer.collides_congr
      fun px column py row => m.landings_eq_hits x y n column row]
    simp
  exact ⟨after, {
    drawn := drawn
    executed := by
      rintro k rfl
      exact drawn
    pixel := by
      intro px py column row
      rw [screen, same, Sprite.draw, Sprite.isSet_foldl keeps, m.landings_eq_hits x y n column row]
    flag := by
      have flagged : after.v.get flagRegister = flag sprite.collision := by
        rw [registers]
        exact (Vector.get_put m.v flagRegister flagRegister _).trans (if_pos rfl)
      rw [← collision, flagged]
      cases sprite.collision with
      | false => exact .inr ⟨Bool.false_ne_true, rfl⟩
      | true => exact .inl ⟨rfl, rfl⟩
    registers := by
      intro r other
      rw [registers]
      exact (Vector.get_put m.v flagRegister r _).trans (if_neg other.symm)
    rest := rest }⟩

/-- On a screen of any size, with any picture on it, a sprite inverts each pixel as often as its
bits land there, wherever it wraps around, and the flag tells whether something went off. -/
theorem draw_xors [Keypad κ] (grid : Grid) (x y : Register) (n : Nat) :
    (∀ m : Machine (HeadlessScreen grid) κ τ, m.i.toNat + n ≤ 4096 →
        ∃ after, Xors HeadlessScreen.frame m after x y n) ∧
      ∀ m : Machine (TerminalScreen grid) κ τ, m.i.toNat + n ≤ 4096 →
        ∃ after, Xors TerminalScreen.frame m after x y n := by
  have headless : Screen.Keeps (HeadlessScreen.frame : HeadlessScreen grid → FrameBuffer grid) :=
    ⟨fun _ _ _ => rfl, fun _ _ _ => rfl⟩
  have terminal : Screen.Keeps (TerminalScreen.frame : TerminalScreen grid → FrameBuffer grid) :=
    ⟨fun _ _ _ => rfl, fun _ _ _ => rfl⟩
  exact ⟨fun m fits => xors_of_keeps headless m x y fits,
    fun m fits => xors_of_keeps terminal m x y fits⟩

def sliver : Grid := ⟨8, 1, by decide, by decide, by decide⟩

/-- A machine about to draw the glyph of zero, five rows high, on a display of one row. -/
def cramped : Machine (HeadlessScreen sliver) ScriptedKeypad MuteSpeaker :=
  create {} (HeadlessScreen.blank sliver) {} {}

theorem cramped_draws :
    cramped.i.toNat + 5 ≤ 4096 ∧ ∃ after,
      Xors HeadlessScreen.frame cramped after flagRegister flagRegister 5 ∧
        after.screen.frame.isSet 0 0 = true ∧ after.screen.frame.isSet 1 0 = false ∧
        after.v.get flagRegister = 1 := by
  have fits : cramped.i.toNat + 5 ≤ 4096 := by decide +kernel
  have hits : cramped.hits sliver flagRegister flagRegister 5 0 0 = 5 ∧
      cramped.hits sliver flagRegister flagRegister 5 1 0 = 2 := by decide +kernel
  obtain ⟨headless, _⟩ := draw_xors (κ := ScriptedKeypad) (τ := MuteSpeaker) sliver flagRegister
    flagRegister 5
  obtain ⟨after, xors⟩ := headless cramped fits
  have row : 0 < sliver.height := by decide
  have column : 0 < sliver.width := by decide
  have next : 1 < sliver.width := by decide
  have first := xors.pixel column row
  have second := xors.pixel next row
  rw [hits.1] at first
  rw [hits.2] at second
  refine ⟨fits, after, xors, first, second, ?_⟩
  rcases xors.flag with ⟨_, raised⟩ | ⟨spared, _⟩
  · exact raised
  · exact absurd ⟨1, next, 0, row, .inr (by rw [hits.2])⟩ spared

end Machine

end Chip8
