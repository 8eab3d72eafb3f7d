import Chip8.Proofs.Drawing
import Chip8.Proofs.Execute

/-!
# The sprite at I

An instruction draws as many bytes as it says from the index register on, each
fetched from an address of its own that wraps around at the end of memory
(`execute_draw`). That is at most fifteen rows, so no pixel is hit twice: the
flag can be read off the pictures before and after, and a pixel changes just if
a bit of some byte lands there (`one_le_hits_slice_iff`).
-/

namespace Chip8

namespace Machine

/-- All bytes are there, so the sprite is drawn with its corner where the two
registers said, and then the flag is set. -/
theorem execute_draw (m : Machine) (x y n : Nibble) :
    m.execute (.draw x y n) =
      executed (setFlag
        { m with display :=
            m.display.draw (m.reg x).toNat (m.reg y).toNat (m.memory.slice m.index.toNat n.val) }
        (m.display.collides (m.reg x).toNat (m.reg y).toNat
          (m.memory.slice m.index.toNat n.val))) := by
  simp only [execute, spriteAt_eq]

end Machine

theorem Memory.getD_slice (m : Memory) (start : Nat) {row count : Nat} (inside : row < count) :
    (m.slice start count).getD row 0 = m.byteAt (.wrap (start + row)) := by
  simp [slice, inside]

/-- A slice of memory hits a pixel if a bit of some byte lands there. -/
theorem one_le_hits_slice_iff (m : Memory) (start count : Nat) {x y : Nat} {p : Position} :
    1 ≤ Sprite.hits x y (m.slice start count) p ↔ ∃ row < count, ∃ column < 8,
      (m.byteAt (.wrap (start + row))).toNat.testBit (7 - column) = true ∧
        (x + column) % 64 = p.x.val ∧ (y + row) % 32 = p.y.val := by
  rw [Sprite.one_le_hits_iff, Memory.length_slice]
  apply exists_congr
  intro row
  apply and_congr_right
  intro inside
  rw [m.getD_slice start inside]

namespace Machine

variable {m : Machine} {x y n : Nibble}

theorem short_slice (m : Machine) (n : Nibble) :
    (m.memory.slice m.index.toNat n.val).length ≤ 32 := by
  rw [Memory.length_slice]
  omega

theorem display_draw : (m.execute (.draw x y n)).state.display =
    m.display.draw (m.reg x).toNat (m.reg y).toNat (m.memory.slice m.index.toNat n.val) :=
  m.display_execute (.draw x y n)

/-- The flag says whether a pixel went out that was lit. -/
theorem flag_draw : (m.execute (.draw x y n)).state.reg 0xF =
    if m.display.collides (m.reg x).toNat (m.reg y).toNat (m.memory.slice m.index.toNat n.val)
      then 1 else 0 := by
  rw [execute_draw]
  exact (reg_setReg _ 0xF 0xF _).trans (if_pos rfl)

/-- A pixel changes if a bit of some byte lands there. -/
theorem pixel_draw_ne_iff (p : Position) :
    (m.execute (.draw x y n)).state.display.screen.pixel p ≠ m.display.screen.pixel p ↔
      ∃ row < n.val, ∃ column < 8,
        (m.memory.byteAt (.wrap (m.index.toNat + row))).toNat.testBit (7 - column) = true ∧
          ((m.reg x).toNat % 64 + column) % 64 = p.x.val ∧
          ((m.reg y).toNat % 32 + row) % 32 = p.y.val := by
  rw [display_draw, ← Display.draw_mod, Display.pixel_draw_ne_iff_of_short _ (short_slice m n),
    one_le_hits_slice_iff]

/-- Since no pixel is hit twice, a pixel that goes out is one that was lit and is
no longer so. -/
theorem collides_iff_turned_off :
    m.display.collides (m.reg x).toNat (m.reg y).toNat (m.memory.slice m.index.toNat n.val) =
        true ↔
      ∃ p, m.display.screen.pixel p = true ∧
        (m.execute (.draw x y n)).state.display.screen.pixel p = false := by
  rw [display_draw, Display.collides_iff_of_short _ (short_slice m n)]

end Machine

/-- **The sprite at I is drawn as a whole.** Drawing `n` rows is always done. A
pixel changes just if a bit of one of the `n` bytes from the index register on,
modulo the size of memory, lands there, counted from the old Vx and Vy modulo
the size of the screen, be they VF or not. Afterwards VF is one if a pixel that
was lit is no longer so and zero otherwise, in particular if there is no row,
and the display bears the note. Nothing but VF and the display has changed. -/
theorem sprite_at_index_is_drawn (m : Machine) (x y n : Nibble) :
    let e := m.execute (.draw x y n)
    let before := m.display.screen
    let after := e.state.display.screen
    e.outcome = .ok .executed ∧
    (∀ p, after.pixel p ≠ before.pixel p ↔ ∃ row < n.val, ∃ column < 8,
      (m.memory.byteAt (.wrap (m.index.toNat + row))).toNat.testBit (7 - column) = true ∧
        ((m.reg x).toNat % 64 + column) % 64 = p.x.val ∧
        ((m.reg y).toNat % 32 + row) % 32 = p.y.val) ∧
    (e.state.reg 0xF = 1 ↔ ∃ p, before.pixel p = true ∧ after.pixel p = false) ∧
    (e.state.reg 0xF = 0 ↔ ¬ ∃ p, before.pixel p = true ∧ after.pixel p = false) ∧
    (m.execute (.draw x y 0)).state.reg 0xF = 0 ∧
    e.state.display.dirty = true ∧
    e.state = { m.setReg 0xF (e.state.reg 0xF) with display := e.state.display } := by
  intro e before after
  have turned := Machine.collides_iff_turned_off (m := m) (x := x) (y := y) (n := n)
  have flag := Machine.flag_draw (m := m) (x := x) (y := y) (n := n)
  refine ⟨?_, Machine.pixel_draw_ne_iff, ?_, ?_, ?_, ?_, ?_⟩
  · simp only [e, Machine.execute_draw, Machine.executed]
  · rw [← turned, flag]
    simp
  · rw [← turned, flag]
    simp
  · exact Machine.flag_draw
  · simp only [e, Machine.display_draw, Display.draw]
  · rw [flag]
    simp only [e, Machine.execute_draw]
    rfl

end Chip8
