import Chip8.FrameBuffer
import Mathlib.Algebra.GroupWithZero.Nat
import Mathlib.Data.Fintype.Card
import Mathlib.Data.Nat.Bitwise
import Mathlib.Data.Finset.Prod

namespace Chip8

namespace Grid

variable (grid : Grid)

theorem val_place {x y : Nat} (column : x < grid.width) (row : y < grid.height) :
    (grid.place x y).val = y * grid.width + x := by
  simp only [place, Nat.mod_eq_of_lt column, Nat.mod_eq_of_lt row]

/-- Every place is that of a pixel of the grid. -/
theorem column_row {place : Nat} (inside : place < grid.area) :
    place % grid.width < grid.width ∧ place / grid.width < grid.height ∧
      place / grid.width * grid.width + place % grid.width = place :=
  ⟨Nat.mod_lt _ grid.width_pos, Nat.div_lt_of_lt_mul inside, Nat.div_add_mod' place grid.width⟩

theorem place_column_row (place : Fin grid.area) :
    grid.place (place.val % grid.width) (place.val / grid.width) = place := by
  obtain ⟨column, row, same⟩ := grid.column_row place.isLt
  exact Fin.ext ((grid.val_place column row).trans same)

theorem column_row_place {x y : Nat} (column : x < grid.width) (row : y < grid.height) :
    (grid.place x y).val % grid.width = x ∧ (grid.place x y).val / grid.width = y := by
  rw [grid.val_place column row]
  constructor
  · rw [Nat.mul_add_mod_self_right, Nat.mod_eq_of_lt column]
  · rw [Nat.mul_comm, Nat.mul_add_div grid.width_pos, Nat.div_eq_of_lt column, Nat.add_zero]

/-- A size is refused for the stated reasons and no other. -/
theorem ofSize_cases (width height : Nat) :
    if width = 0 ∨ ¬ 8 ∣ width ∨ height = 0 then
      ofSize width height = .error ⟨width, height⟩
    else ∃ grid, ofSize width height = .ok grid ∧ grid.width = width ∧ grid.height = height := by
  unfold ofSize
  split
  · rename_i bad
    rw [dif_neg]
    omega
  · rename_i good
    have legal : 0 < width ∧ 8 ∣ width ∧ 0 < height := by omega
    rw [dif_pos legal]
    exact ⟨_, rfl, rfl, rfl⟩

end Grid

private theorem toNat_mask {k : Nat} (inside : k < 8) :
    ((0x80 : UInt8) >>> UInt8.ofNat k).toNat = 2 ^ (7 - k) := by
  revert k
  decide

/-- A mask picks out its bit. -/
theorem masked (byte : UInt8) {k : Nat} (inside : k < 8) :
    (byte &&& 0x80 >>> UInt8.ofNat k != 0) = byte.toNat.testBit (7 - k) := by
  have value : (byte &&& 0x80 >>> UInt8.ofNat k).toNat =
      (byte.toNat.testBit (7 - k)).toNat * 2 ^ (7 - k) := by
    rw [UInt8.toNat_and, toNat_mask inside, Nat.and_two_pow]
  rw [Bool.eq_iff_iff, bne_iff_ne, ne_eq, ← UInt8.toNat_inj, value]
  cases byte.toNat.testBit (7 - k) <;> simp

/-- A mask inverts its bit alone. -/
theorem testBit_inverted (byte : UInt8) {j k : Nat} (mask : j < 8) (inside : k < 8) :
    (byte ^^^ 0x80 >>> UInt8.ofNat j).toNat.testBit (7 - k) =
      (byte.toNat.testBit (7 - k) ^^ decide (j = k)) := by
  have places : 7 - j = 7 - k ↔ j = k := by omega
  rw [UInt8.toNat_xor, toNat_mask mask, Nat.testBit_xor, Nat.testBit_two_pow,
    decide_eq_decide.mpr places]

theorem eq_of_testBit {byte other : UInt8}
    (same : ∀ k < 8, byte.toNat.testBit (7 - k) = other.toNat.testBit (7 - k)) : byte = other := by
  apply UInt8.toNat_inj.mp
  apply Nat.eq_of_testBit_eq
  intro i
  by_cases inside : i < 8
  · have place : 7 - (7 - i) = i := by omega
    have bit := same (7 - i) (by omega)
    rwa [place] at bit
  · have small (byte : UInt8) : byte.toNat < 2 ^ i :=
      Nat.lt_of_lt_of_le byte.toNat_lt (Nat.pow_le_pow_right (by decide) (Nat.le_of_not_lt inside))
    rw [Nat.testBit_lt_two_pow (small byte), Nat.testBit_lt_two_pow (small other)]

namespace FrameBuffer

variable {grid : Grid}

/-- The pixel at a place, counted row by row. -/
def pixel (frame : FrameBuffer grid) (place : Nat) : Bool :=
  (frame.packed[place / 8]?.getD 0).toNat.testBit (7 - place % 8)

theorem isSet_eq_testBit (frame : FrameBuffer grid) (x y : Nat) :
    frame.isSet x y = (frame.packed.get (grid.locate x y).1).toNat.testBit
      (7 - (grid.place x y).val % 8) :=
  masked _ (Nat.mod_lt _ (by decide))

theorem isSet_eq_pixel (frame : FrameBuffer grid) (x y : Nat) :
    frame.isSet x y = frame.pixel (grid.place x y) := by
  have found : frame.packed[(grid.place x y).val / 8]? =
      some (frame.packed.get (grid.locate x y).1) :=
    Vector.getElem?_eq_getElem (grid.locate x y).1.isLt
  rw [isSet_eq_testBit, pixel, found, Option.getD_some]

@[simp]
theorem isSet_blank (x y : Nat) : (blank grid).isSet x y = false := by
  have empty : (blank grid).packed.get (grid.locate x y).1 = 0 := Vector.getElem_replicate _
  simp only [isSet, empty, UInt8.zero_and, bne_self_eq_false]

/-- Inverting a pixel answers whether it was on. -/
theorem lit_toggle (frame : FrameBuffer grid) (x y : Nat) :
    (frame.toggle x y).1 = frame.isSet x y := rfl

/-- Inverting a pixel changes that pixel alone. -/
theorem isSet_toggle (frame : FrameBuffer grid) (x y x' y' : Nat) :
    (frame.toggle x y).2.isSet x' y' =
      if grid.place x y = grid.place x' y' then !frame.isSet x y else frame.isSet x' y' := by
  have inverted : (frame.toggle x y).2.packed.get (grid.locate x' y').1 =
      if (grid.locate x y).1 = (grid.locate x' y').1 then
        frame.packed.get (grid.locate x y).1 ^^^ 0x80 >>> UInt8.ofNat ((grid.place x y).val % 8)
      else frame.packed.get (grid.locate x' y').1 := Vector.get_put _ _ _ _
  have same_iff : grid.place x y = grid.place x' y' ↔
      (grid.locate x y).1 = (grid.locate x' y').1 ∧
        (grid.place x y).val % 8 = (grid.place x' y').val % 8 := by
    simp only [Fin.ext_iff, Grid.locate]
    omega
  rw [isSet_eq_testBit, inverted, isSet_eq_testBit, isSet_eq_testBit]
  by_cases byte : (grid.locate x y).1 = (grid.locate x' y').1
  · rw [if_pos byte, testBit_inverted _ (Nat.mod_lt _ (by decide)) (Nat.mod_lt _ (by decide))]
    by_cases bit : (grid.place x y).val % 8 = (grid.place x' y').val % 8
    · rw [if_pos (same_iff.mpr ⟨byte, bit⟩), decide_eq_true bit, Bool.xor_true, bit]
    · rw [if_neg fun same => bit (same_iff.mp same).2, decide_eq_false bit, Bool.xor_false, byte]
  · rw [if_neg byte, if_neg fun same => byte (same_iff.mp same).1]

theorem pixel_eq_isSet (frame : FrameBuffer grid) {place : Nat} (inside : place < grid.area) :
    frame.pixel place = frame.isSet (place % grid.width) (place / grid.width) := by
  have same := grid.place_column_row ⟨place, inside⟩
  rw [isSet_eq_pixel, same]

/-- Every pixel is a bit of the packed picture. -/
theorem packed_pixel (frame : FrameBuffer grid) {place : Nat} (inside : place < grid.area) :
    ∃ byte, frame.bytes[place / 8]? = some byte ∧
      byte.toNat.testBit (7 - place % 8) = frame.pixel place := by
  have byte : place / 8 < grid.byteCount := by
    rw [← grid.eight_mul_byteCount] at inside
    exact Nat.div_lt_of_lt_mul inside
  have found : frame.packed[place / 8]? = some frame.packed[place / 8] :=
    Vector.getElem?_eq_getElem byte
  refine ⟨frame.packed[place / 8], ?_, ?_⟩
  · rw [bytes, Vector.getElem?_toList, found]
  · rw [pixel, found, Option.getD_some]

/-- The eight pixels of a byte. -/
private theorem testBit_packed (frame : FrameBuffer grid) {byte k : Nat}
    (inside : byte < grid.byteCount) (bit : k < 8) :
    frame.packed[byte].toNat.testBit (7 - k) = frame.pixel (8 * byte + k) := by
  have quotient : (8 * byte + k) / 8 = byte := by omega
  have remainder : (8 * byte + k) % 8 = k := by omega
  rw [pixel, quotient, remainder, Vector.getElem?_eq_getElem inside, Option.getD_some]

/-- Two pictures are the same if all their pixels are. -/
theorem eq_of_isSet {frame other : FrameBuffer grid}
    (same : ∀ x y, frame.isSet x y = other.isSet x y) : frame = other := by
  have packed : frame.packed = other.packed := by
    apply Vector.ext
    intro byte inside
    apply eq_of_testBit
    intro k bit
    have place : 8 * byte + k < grid.area := by
      rw [← grid.eight_mul_byteCount]
      omega
    rw [testBit_packed frame inside bit, testBit_packed other inside bit, pixel_eq_isSet _ place,
      pixel_eq_isSet _ place, same]
  cases frame
  cases other
  exact congrArg FrameBuffer.mk packed

theorem length_bytes (frame : FrameBuffer grid) : frame.bytes.length = grid.byteCount := by
  rw [bytes, Vector.length_toList]

/-- The bytes tell the whole picture. -/
theorem bytes_inj {frame other : FrameBuffer grid} :
    frame.bytes = other.bytes ↔ ∀ x y, frame.isSet x y = other.isSet x y := by
  constructor
  · intro same x y
    have packed : frame.packed = other.packed := Vector.toList_inj.mp same
    rw [isSet, isSet, packed]
  · intro same
    rw [eq_of_isSet same]

private theorem ones_packed (frame : FrameBuffer grid) {byte : Nat}
    (inside : byte < grid.byteCount) :
    ones frame.packed[byte] = (List.range 8).countP fun k => frame.pixel (8 * byte + k) := by
  have reversed : (List.range 8).reverse = (List.range 8).map fun k => 7 - k := rfl
  rw [ones, ← List.countP_reverse, reversed, List.countP_map]
  apply List.countP_congr
  intro k bit
  rw [Function.comp_apply, testBit_packed frame inside (List.mem_range.mp bit)]

private theorem sum_countP (p : Nat → Bool) (blocks : Nat) :
    ((List.range blocks).map fun block => (List.range 8).countP fun k => p (8 * block + k)).sum =
      (List.range (8 * blocks)).countP p := by
  induction blocks with
  | zero => rfl
  | succ blocks ih =>
    rw [List.range_succ (n := blocks), List.map_append, List.sum_append, ih, Nat.mul_succ,
      List.range_add, List.countP_append, List.countP_map]
    simp only [List.map_cons, List.map_nil, List.sum_singleton, Function.comp_def]

theorem lit_eq_countP (frame : FrameBuffer grid) :
    frame.lit = (List.range grid.area).countP frame.pixel := by
  have counts : frame.bytes.map ones = (List.range grid.byteCount).map fun byte =>
      (List.range 8).countP fun k => frame.pixel (8 * byte + k) := by
    apply List.ext_getElem
    · rw [List.length_map, length_bytes, List.length_map, List.length_range]
    · intro byte inside _
      rw [List.length_map, length_bytes] at inside
      simp only [List.getElem_map, List.getElem_range, bytes, Vector.getElem_toList]
      exact frame.ones_packed inside
  rw [← grid.eight_mul_byteCount, ← sum_countP, ← counts, List.sum_eq_foldl, List.foldl_map, lit]

/-- The pixels that are on are counted once each. -/
theorem lit_eq_card (frame : FrameBuffer grid) :
    frame.lit = (((Finset.range grid.width) ×ˢ (Finset.range grid.height)).filter fun cell =>
      frame.isSet cell.1 cell.2).card := by
  have places : frame.lit = ((Finset.range grid.area).filter fun k => frame.pixel k).card := by
    have distinct : ((List.range grid.area).filter frame.pixel).Nodup := List.nodup_range.filter _
    have members : ((List.range grid.area).filter frame.pixel).toFinset =
        (Finset.range grid.area).filter fun k => frame.pixel k := by
      ext k
      rw [List.mem_toFinset, List.mem_filter, List.mem_range, Finset.mem_filter, Finset.mem_range]
    rw [lit_eq_countP, List.countP_eq_length_filter, ← List.toFinset_card_of_nodup distinct,
      members]
  rw [places]
  refine Finset.card_nbij' (fun k => (k % grid.width, k / grid.width))
    (fun cell => (grid.place cell.1 cell.2).val) ?_ ?_ ?_ ?_
  · intro k member
    obtain ⟨inside, lit⟩ := Finset.mem_filter.mp member
    have inside := Finset.mem_range.mp inside
    obtain ⟨column, row, _⟩ := grid.column_row inside
    rw [pixel_eq_isSet frame inside] at lit
    exact Finset.mem_filter.mpr
      ⟨Finset.mem_product.mpr ⟨Finset.mem_range.mpr column, Finset.mem_range.mpr row⟩, lit⟩
  · rintro ⟨x, y⟩ member
    obtain ⟨inside, lit⟩ := Finset.mem_filter.mp member
    rw [isSet_eq_pixel] at lit
    exact Finset.mem_filter.mpr ⟨Finset.mem_range.mpr (grid.place x y).isLt, lit⟩
  · intro k member
    have inside := Finset.mem_range.mp (Finset.mem_filter.mp member).1
    exact congrArg Fin.val (grid.place_column_row ⟨k, inside⟩)
  · rintro ⟨x, y⟩ member
    obtain ⟨column, row⟩ := Finset.mem_product.mp (Finset.mem_filter.mp member).1
    obtain ⟨sameColumn, sameRow⟩ :=
      grid.column_row_place (Finset.mem_range.mp column) (Finset.mem_range.mp row)
    exact Prod.ext sameColumn sameRow

end FrameBuffer

end Chip8
