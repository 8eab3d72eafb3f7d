import Chip8.Memory

/-!
# Bytes one after another

Where a byte of a block comes to lie when the block is placed in memory and
wraps around at the end. It depends on the start only up to whole turns
(`place_congr`, `slice_congr`), and each byte lies as far past the start as it
is into the block (`byteAt_place`), since a block of at most 4096 bytes never
meets itself. So it can be read back (`slice_place`), and what it does not reach
is as before (`byteAt_place_of_le`).
-/

namespace Chip8

namespace Address

/-- How far a place lies past a start, going on at the beginning of memory
once the end is reached. -/
def past (a : Address) (start : Nat) : Nat := (a.val + (4096 - start % 4096)) % 4096

theorem wrap_congr {start other : Nat} (same : start % 4096 = other % 4096) :
    wrap start = wrap other := Fin.ext same

/-- Within memory a number stands for itself. -/
theorem wrap_of_lt {k : Nat} (inside : k < 4096) : wrap k = ⟨k, inside⟩ :=
  Fin.ext (Nat.mod_eq_of_lt inside)

theorem past_eq_zero_iff (a : Address) (start : Nat) : a.past start = 0 ↔ wrap start = a := by
  have bound := a.isLt
  have turn : start % 4096 < 4096 := Nat.mod_lt _ (by decide)
  rw [Fin.ext_iff]
  show (a.val + (4096 - start % 4096)) % 4096 = 0 ↔ start % 4096 = a.val
  omega

/-- A place that is not the start lies one less past the place after the
start. -/
theorem past_succ {a : Address} {start : Nat} (other : wrap start ≠ a) :
    a.past start = a.past (start + 1) + 1 := by
  have bound := a.isLt
  have turn : start % 4096 < 4096 := Nat.mod_lt _ (by decide)
  have distinct : start % 4096 ≠ a.val := fun same => other (Fin.ext same)
  show (a.val + (4096 - start % 4096)) % 4096 =
    (a.val + (4096 - (start + 1) % 4096)) % 4096 + 1
  omega

/-- The place after the start is the farthest from the start itself. -/
theorem past_succ_wrap (start : Nat) : (wrap start).past (start + 1) = 4095 := by
  have turn : start % 4096 < 4096 := Nat.mod_lt _ (by decide)
  show (start % 4096 + (4096 - (start + 1) % 4096)) % 4096 = 4095
  omega

theorem past_wrap_add (start : Nat) {k : Nat} (near : k < 4096) :
    (wrap (start + k)).past start = k := by
  have turn : start % 4096 < 4096 := Nat.mod_lt _ (by decide)
  show ((start + k) % 4096 + (4096 - start % 4096)) % 4096 = k
  omega

/-- A place that does not come before the start lies as far past it as the
numbers say. -/
theorem past_of_le {a : Address} {start : Nat} (after : start ≤ a.val) :
    a.past start = a.val - start := by
  have bound := a.isLt
  show (a.val + (4096 - start % 4096)) % 4096 = a.val - start
  omega

/-- A place that comes before the start is reached once round memory. -/
theorem past_of_lt {a : Address} {start : Nat} (before : a.val < start) (inside : start < 4096) :
    a.past start = a.val + (4096 - start) := by
  show (a.val + (4096 - start % 4096)) % 4096 = a.val + (4096 - start)
  omega

end Address

namespace Memory

variable {start other : Nat}

theorem byteAt_blank (a : Address) : blank.byteAt a = 0 := by
  simp [blank, byteAt]

theorem place_congr (m : Memory) (same : start % 4096 = other % 4096) (bytes : List UInt8) :
    m.place start bytes = m.place other bytes := by
  induction bytes generalizing m start other with
  | nil => rfl
  | cons b rest ih =>
      have next : (start + 1) % 4096 = (other + 1) % 4096 := by omega
      rw [place, place, Address.wrap_congr same]
      exact ih _ next

theorem slice_congr (m : Memory) (same : start % 4096 = other % 4096) (count : Nat) :
    m.slice start count = m.slice other count := by
  unfold slice
  apply List.map_congr_left
  intro k _
  have shifted : (start + k) % 4096 = (other + k) % 4096 := by omega
  rw [Address.wrap_congr shifted]

/-- Placing a block puts each byte as far past the start as it is into the
block, and changes nothing else. -/
theorem byteAt_place (m : Memory) (start : Nat) {bytes : List UInt8}
    (short : bytes.length ≤ 4096) (a : Address) :
    (m.place start bytes).byteAt a = bytes[a.past start]?.getD (m.byteAt a) := by
  -- the first byte stays: the others do not reach round to it
  induction bytes generalizing m start with
  | nil => rfl
  | cons b rest ih =>
      have shorter : rest.length < 4096 := short
      rw [place, ih _ _ (Nat.le_of_lt shorter), byteAt_put]
      by_cases here : Address.wrap start = a
      · subst here
        have beyond : rest[(Address.wrap start).past (start + 1)]? = none := by
          apply List.getElem?_eq_none
          rw [Address.past_succ_wrap]
          omega
        have first : (Address.wrap start).past start = 0 :=
          (Address.past_eq_zero_iff _ _).2 rfl
        rw [beyond, first, if_pos rfl]
        rfl
      · rw [if_neg here, Address.past_succ here, List.getElem?_cons_succ]

/-- Places that a block does not reach are as they were. -/
theorem byteAt_place_of_le (m : Memory) {bytes : List UInt8} (short : bytes.length ≤ 4096)
    {a : Address} (beyond : bytes.length ≤ a.past start) :
    (m.place start bytes).byteAt a = m.byteAt a := by
  rw [byteAt_place m start short, List.getElem?_eq_none beyond]
  rfl

/-- A block can be read back. -/
theorem slice_place (m : Memory) (start : Nat) {bytes : List UInt8}
    (short : bytes.length ≤ 4096) : (m.place start bytes).slice start bytes.length = bytes := by
  apply List.ext_getElem (length_slice _ _ _)
  intro k _ inside
  have near : k < 4096 := Nat.lt_of_lt_of_le inside short
  simp only [slice, List.getElem_map, List.getElem_range]
  rw [byteAt_place m start short, Address.past_wrap_add start near,
    List.getElem?_eq_getElem inside]
  rfl

end Memory

end Chip8
