import Chip8.Device.Terminal
import Chip8.Proofs.FrameBuffer.Parity

namespace Chip8

open Stroke

namespace Grid

def pointOf (x y : Nat) : Int × Int := (Int.ofNat x, -Int.ofNat y)

theorem pointOf_inj {x y x' y' : Nat} : pointOf x y = pointOf x' y' ↔ x = x' ∧ y = y' := by
  simp only [pointOf, Prod.mk.injEq, Int.ofNat_eq_natCast, Int.natCast_inj, Int.neg_inj]

/-- The bit that stands for a pixel. -/
def bitOf (lit : Bool) : UInt8 := if lit then 1 else 0

theorem bitAt_eq {grid : Grid} (frame : FrameBuffer grid) (place : Fin grid.area) :
    grid.bitAt frame.packed place = bitOf (frame.pixel place.val) := by
  have inside : place.val / 8 < grid.byteCount := by
    apply Nat.div_lt_of_lt_mul
    rw [grid.eight_mul_byteCount]
    exact place.isLt
  have shift : (7 - place.val % 8) % 256 % 8 = 7 - place.val % 8 := by omega
  have value : (grid.bitAt frame.packed place).toNat =
      frame.packed[place.val / 8].toNat >>> (7 - place.val % 8) % 2 := by
    rw [bitAt, UInt8.toNat_and, UInt8.toNat_shiftRight, UInt8.toNat_ofNat', shift]
    exact Nat.one_and_eq_mod_two _
  rw [← UInt8.toNat_inj, value, FrameBuffer.pixel, Vector.getElem?_eq_getElem inside,
    Option.getD_some, Nat.testBit, Nat.one_and_eq_mod_two]
  rcases Nat.mod_two_eq_zero_or_one (frame.packed[place.val / 8].toNat >>> (7 - place.val % 8)) with
    even | odd
  · rw [even]
    rfl
  · rw [odd]
    rfl

variable {grid : Grid} (frame : FrameBuffer grid)

theorem plane_bitOf (lit : Bool) :
    grid.plane frame.packed (bitOf lit) =
      ((List.finRange grid.area).reverse.filter fun place => frame.pixel place.val == lit).map
        fun place => pointOf (place.val % grid.width) (place.val / grid.width) := by
  rw [plane]
  congr 1
  apply List.filter_congr
  intro place _
  rw [bitAt_eq]
  cases frame.pixel place.val <;> cases lit <;> rfl

/-- The plane of a bit has the points of the pixels with that bit. -/
theorem mem_plane {lit : Bool} {point : Int × Int} :
    point ∈ grid.plane frame.packed (bitOf lit) ↔ ∃ x y, x < grid.width ∧ y < grid.height ∧
      frame.pixel (y * grid.width + x) = lit ∧ point = pointOf x y := by
  simp only [plane_bitOf, List.mem_map, List.mem_filter, List.mem_reverse, List.mem_finRange,
    true_and, beq_iff_eq]
  constructor
  · rintro ⟨place, bit, rfl⟩
    obtain ⟨column, row, same⟩ := grid.column_row place.isLt
    exact ⟨_, _, column, row, by rw [same, bit], rfl⟩
  · rintro ⟨x, y, column, row, bit, rfl⟩
    obtain ⟨sameColumn, sameRow⟩ := grid.column_row_place column row
    refine ⟨grid.place x y, ?_, ?_⟩
    · rw [grid.val_place column row, bit]
    · rw [sameColumn, sameRow]

theorem pointOf_mem_plane {lit : Bool} {x y : Nat} (column : x < grid.width)
    (row : y < grid.height) :
    pointOf x y ∈ grid.plane frame.packed (bitOf lit) ↔
      frame.pixel (y * grid.width + x) = lit := by
  rw [mem_plane]
  constructor
  · rintro ⟨x', y', _, _, bit, same⟩
    obtain ⟨rfl, rfl⟩ := pointOf_inj.mp same
    exact bit
  · intro bit
    exact ⟨x, y, column, row, bit, rfl⟩

/-- Together the planes are the points of all places, in some order. -/
private theorem planes_perm :
    (grid.plane frame.packed 0 ++ grid.plane frame.packed 1).Perm
      ((List.finRange grid.area).map fun place =>
        pointOf (place.val % grid.width) (place.val / grid.width)) := by
  have off : grid.plane frame.packed 0 = _ := plane_bitOf frame false
  have on : grid.plane frame.packed 1 = _ := plane_bitOf frame true
  rw [off, on, ← List.map_append]
  apply List.Perm.map
  have split := (List.filter_append_perm (fun place => frame.pixel place.val == false)
    (List.finRange grid.area).reverse).trans (List.reverse_perm _)
  have others : (fun place : Fin grid.area => !(frame.pixel place.val == false)) =
      fun place => frame.pixel place.val == true := by
    funext place
    cases frame.pixel place.val <;> rfl
  rwa [others] at split

private theorem planes_nodup :
    (grid.plane frame.packed 0 ++ grid.plane frame.packed 1).Nodup := by
  rw [(planes_perm frame).nodup_iff]
  apply List.Nodup.map _ (List.nodup_finRange _)
  intro place other same
  obtain ⟨columns, rows⟩ := pointOf_inj.mp same
  apply Fin.ext
  rw [← Nat.div_add_mod' place.val grid.width, columns, rows, Nat.div_add_mod']

/-- The two planes of a packed picture share out the pixels of the grid, those that are on to one
and the others to the other. -/
structure Split (frame : FrameBuffer grid) (lit : Nat → Nat → Prop) [∀ x y, Decidable (lit x y)] :
    Prop where
  length : (grid.plane frame.packed 0 ++ grid.plane frame.packed 1).length =
    grid.width * grid.height
  once (x y : Nat) (column : x < grid.width) (row : y < grid.height) :
    (grid.plane frame.packed 0 ++ grid.plane frame.packed 1).count (pointOf x y) = 1
  apart : (grid.plane frame.packed 0).Disjoint (grid.plane frame.packed 1)
  own (x y : Nat) (column : x < grid.width) (row : y < grid.height) :
    pointOf x y ∈ grid.plane frame.packed (if lit x y then 1 else 0)

theorem split : Split frame fun x y => frame.pixel (y * grid.width + x) where
  length := by
    rw [(planes_perm frame).length_eq, List.length_map, List.length_finRange]
    rfl
  once x y column row := by
    apply List.count_eq_one_of_mem (planes_nodup frame)
    have own := (pointOf_mem_plane frame column row).mpr rfl
    rw [List.mem_append]
    cases bit : frame.pixel (y * grid.width + x) with
    | false =>
      rw [bit] at own
      exact Or.inl own
    | true =>
      rw [bit] at own
      exact Or.inr own
  apart := List.disjoint_of_nodup_append (planes_nodup frame)
  own x y column row := (pointOf_mem_plane frame column row).mpr rfl

variable {frame}

theorem Split.congr {lit lit' : Nat → Nat → Prop} [∀ x y, Decidable (lit x y)]
    [∀ x y, Decidable (lit' x y)] (split : Split frame lit)
    (same : ∀ x < grid.width, ∀ y < grid.height, lit x y ↔ lit' x y) : Split frame lit' where
  length := split.length
  once := split.once
  apart := split.apart
  own x y column row := by
    rw [← if_congr (same x column y row) rfl rfl]
    exact split.own x y column row

end Grid

open Grid

namespace Canvas

variable {grid : Grid}

theorem cellOf_pointOf (tall : 2 ≤ grid.height) {x y : Nat} (column : x < grid.width)
    (row : y < grid.height) : cellOf grid (pointOf x y) = some (x, y) := by
  have wide : 8 ≤ grid.width := Nat.le_of_dvd grid.width_pos grid.eight_dvd_width
  have within : 0 ≤ (x : Int) ∧ (x : Int) ≤ grid.width - 1 ∧ -((grid.height : Int) - 1) ≤ -y ∧
      -(y : Int) ≤ 0 ∧ (0 : Int) ≠ grid.width - 1 ∧ -((grid.height : Int) - 1) ≠ 0 := by omega
  have offset : ((x : Int) - 0).toNat = x ∧ (0 - -(y : Int)).toNat = y := by omega
  calc cellOf grid (pointOf x y)
      = some (((x : Int) - 0).toNat, (0 - -(y : Int)).toNat) := if_pos within
    _ = some (x, y) := by rw [offset.1, offset.2]

/-- Drawing the points of some pixels changes the cells of these pixels. -/
theorem get_draw (tall : 2 ≤ grid.height) (canvas : Canvas grid) (symbol : Char)
    (points : List (Int × Int))
    (onGrid : ∀ point ∈ points, ∃ x y, x < grid.width ∧ y < grid.height ∧ point = pointOf x y)
    {x y : Nat} (column : x < grid.width) (row : y < grid.height) :
    (canvas.draw symbol points).cells.get (grid.place x y) =
      if pointOf x y ∈ points then symbol else canvas.cells.get (grid.place x y) := by
  induction points generalizing canvas with
  | nil => rfl
  | cons point rest ih =>
    obtain ⟨x', y', column', row', rfl⟩ := onGrid point List.mem_cons_self
    have onward := ih (canvas.mark symbol (pointOf x' y'))
      fun point member => onGrid point (List.mem_cons_of_mem _ member)
    rw [draw, List.foldl_cons, ← draw, onward, mark, cellOf_pointOf tall column' row']
    simp only [Vector.get_put, grid.place_eq_iff, List.mem_cons, pointOf_inj,
      Nat.mod_eq_of_lt column, Nat.mod_eq_of_lt row, Nat.mod_eq_of_lt column',
      Nat.mod_eq_of_lt row']
    by_cases later : pointOf x y ∈ rest
    · simp [later]
    · simp [later, eq_comm]

end Canvas

namespace FrameBuffer

variable {grid : Grid}

theorem pixel_of_inside (frame : FrameBuffer grid) {x y : Nat} (column : x < grid.width)
    (row : y < grid.height) : frame.pixel (y * grid.width + x) = frame.isSet x y := by
  rw [isSet_eq_pixel, grid.val_place column row]

theorem get_canvas (tall : 2 ≤ grid.height) (frame : FrameBuffer grid) {x y : Nat}
    (column : x < grid.width) (row : y < grid.height) :
    frame.canvas.cells.get (grid.place x y) = if frame.isSet x y then '#' else '.' := by
  have onGrid (lit : Bool) : ∀ point ∈ grid.plane frame.packed (bitOf lit),
      ∃ x y, x < grid.width ∧ y < grid.height ∧ point = pointOf x y := by
    intro point member
    obtain ⟨x, y, column, row, _, rfl⟩ := (mem_plane frame).mp member
    exact ⟨x, y, column, row, rfl⟩
  have drawnAt (lit : Bool) : pointOf x y ∈ grid.plane frame.packed (bitOf lit) ↔
      frame.isSet x y = lit := by
    rw [pointOf_mem_plane frame column row, frame.pixel_of_inside column row]
  have drawn : frame.canvas =
      ((Canvas.empty grid).draw '.' (grid.plane frame.packed (bitOf false))).draw '#'
        (grid.plane frame.packed (bitOf true)) := rfl
  rw [drawn, Canvas.get_draw tall _ _ _ (onGrid true) column row,
    Canvas.get_draw tall _ _ _ (onGrid false) column row]
  cases bit : frame.isSet x y with
  | false =>
    have notOn : pointOf x y ∉ grid.plane frame.packed (bitOf true) := by
      simp [drawnAt, bit]
    rw [if_neg notOn, if_pos ((drawnAt false).mpr bit)]
    rfl
  | true =>
    rw [if_pos ((drawnAt true).mpr bit)]
    rfl

private theorem length_row (canvas : Canvas grid) (y : Nat) :
    (canvas.row y).length = grid.width := by
  rw [Canvas.row, List.length_map, List.length_range]

/-- What the rows of a terminal show of a grid of which some pixels are on. -/
structure Shows (grid : Grid) (lit : Nat → Nat → Prop) [∀ x y, Decidable (lit x y)]
    (rows : List String) : Prop where
  height : rows.length = grid.height + 2
  width : ∀ row ∈ rows, row.toList.length = grid.width + 2
  upper : rows[0]? = some (String.ofList
    (['┌', 'C', 'H', 'I', 'P', '-', '8'] ++ List.replicate (grid.width - 6) '─' ++ ['┐']))
  lower : rows[grid.height + 1]? =
    some (String.ofList ('└' :: List.replicate grid.width '─' ++ ['┘']))
  inner (y : Nat) (inside : y < grid.height) : ∃ row, rows[y + 1]? = some row ∧
    row.toList[0]? = some '│' ∧ row.toList[grid.width + 1]? = some '│' ∧
    ∀ x < grid.width, row.toList[x + 1]? = some (if lit x y then '#' else '.')

private theorem picture_inner (frame : FrameBuffer grid) {y : Nat} (inside : y < grid.height) :
    frame.picture[y + 1]? = some (String.ofList ('│' :: frame.canvas.row y ++ ['│'])) := by
  simp [picture, List.getElem?_append, inside]

private theorem mem_picture (frame : FrameBuffer grid) {row : String}
    (member : row ∈ frame.picture) :
    row = String.ofList ('┌' :: (title ++ (List.replicate grid.width '─').drop 6) ++ ['┐']) ∨
      (∃ y, row = String.ofList ('│' :: frame.canvas.row y ++ ['│'])) ∨
      row = String.ofList ('└' :: List.replicate grid.width '─' ++ ['┘']) := by
  simp only [picture, List.map_append, List.map_cons, List.map_map, List.mem_append,
    List.mem_cons, List.mem_map, List.map_nil, List.not_mem_nil, or_false] at member
  rcases member with (upper | ⟨y, _, inner⟩) | lower
  · exact Or.inl upper
  · exact Or.inr (Or.inl ⟨y, inner.symm⟩)
  · exact Or.inr (Or.inr lower)

theorem shows_picture (tall : 2 ≤ grid.height) (frame : FrameBuffer grid)
    {lit : Nat → Nat → Prop} [∀ x y, Decidable (lit x y)]
    (tells : ∀ x y, frame.isSet x y ↔ lit x y) : Shows grid lit frame.picture where
  height := by simp [picture]
  width row member := by
    have wide : 8 ≤ grid.width := Nat.le_of_dvd grid.width_pos grid.eight_dvd_width
    rcases frame.mem_picture member with rfl | ⟨y, rfl⟩ | rfl
    · simp only [String.toList_ofList, title, List.drop_replicate, List.length_append,
        List.length_cons, List.length_nil, List.length_replicate]
      omega
    · simp only [String.toList_ofList, List.length_append, List.length_cons, List.length_nil,
        length_row]
    · simp only [String.toList_ofList, List.length_append, List.length_cons, List.length_nil,
        List.length_replicate]
  upper := by
    rw [picture, List.cons_append, List.map_cons, List.getElem?_cons_zero, List.drop_replicate]
    rfl
  lower := by
    simp [picture]
  inner y inside := by
    refine ⟨_, frame.picture_inner inside, ?_, ?_, ?_⟩
    · rw [String.toList_ofList]
      rfl
    · rw [String.toList_ofList]
      simp [length_row]
    · intro x column
      have cell : (frame.canvas.row y)[x]? = some (if lit x y then '#' else '.') := by
        rw [Canvas.row, List.getElem?_map, List.getElem?_range column, Option.map_some,
          frame.get_canvas tall column inside, if_congr (tells x y) rfl rfl]
      rw [String.toList_ofList, List.cons_append, List.getElem?_cons_succ,
        List.getElem?_append_left (by rwa [length_row]), cell]

end FrameBuffer

theorem TerminalScreen.frame_stroke {grid : Grid} (screen : TerminalScreen grid) (next : Stroke) :
    (Screen.stroke screen next).frame = screen.frame.stroke next := by
  cases next <;> rfl

theorem TerminalScreen.renderFailure_drawn {grid : Grid} (screen : TerminalScreen grid)
    (strokes : List Stroke) :
    (Screen.drawn screen strokes).renderFailure = screen.renderFailure := by
  induction strokes generalizing screen with
  | nil => rfl
  | cons next rest ih =>
    refine (ih (Screen.stroke screen next)).trans ?_
    cases next <;> rfl

open FrameBuffer

/-- A terminal with room for the picture shows, inside a box, the parity of the strokes. The planes
of any picture share out the grid, and those of a screen do so by parity. -/
theorem TerminalScreen.shows_parity (grid : Grid) (tall : 2 ≤ grid.height) (strokes : List Stroke) :
    let screen := Screen.drawn (TerminalScreen.blank grid) strokes
    let odd := fun x y => Odd (hitsSinceClear grid x y strokes)
    (Screen.render screen).answer = .ok () ∧
      (∃ rows, (Screen.render screen).device.shown = some rows ∧ Shows grid odd rows) ∧
      Split screen.frame odd ∧
      ∀ frame : FrameBuffer grid, Split frame fun x y => frame.pixel (y * grid.width + x) := by
  intro screen odd
  have frame : screen.frame = drawn grid strokes :=
    Screen.frame_drawn TerminalScreen.frame TerminalScreen.frame_stroke _ strokes
  have tells (x y : Nat) : screen.frame.isSet x y ↔ odd x y := by
    rw [frame]
    exact isSet_drawn strokes x y
  have sound : screen.renderFailure = none := TerminalScreen.renderFailure_drawn _ strokes
  have rendered : Screen.render screen =
      ⟨.ok (), { screen with shown := some screen.frame.picture }, []⟩ := by
    simp only [Screen.render, sound]
  rw [rendered]
  refine ⟨rfl, ⟨_, rfl, shows_picture tall screen.frame tells⟩, ?_, Grid.split⟩
  apply (Grid.split screen.frame).congr
  intro x column y row
  rw [screen.frame.pixel_of_inside column row]
  exact tells x y

/-- The pixel in the corner, inverted through coordinates that wrap around. -/
theorem TerminalScreen.shows_corner : ∃ rows row,
    (Screen.render (Screen.drawn (TerminalScreen.blank .standard)
      [.toggle 0 0, .clear, .toggle 64 32])).device.shown = some rows ∧
      rows[1]? = some row ∧ row.toList[1]? = some '#' ∧ row.toList[2]? = some '.' := by
  obtain ⟨_, ⟨rows, shown, shows⟩, _⟩ :=
    TerminalScreen.shows_parity .standard (by decide) [.toggle 0 0, .clear, .toggle 64 32]
  obtain ⟨row, found, _, _, cells⟩ := shows.inner 0 (by decide)
  exact ⟨rows, row, shown, found, cells 0 (by decide), cells 1 (by decide)⟩

end Chip8
