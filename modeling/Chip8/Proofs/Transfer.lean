import Chip8.Proofs.Edits
import Chip8.Proofs.Encoding

/-!
# Registers and digits in memory

Two instructions store bytes from I on, and one loads registers from there.
`Stores` states what such a store leaves at every place of memory: the places it
reaches are apart from each other, since it reaches sixteen of them at most and
memory is larger (`stores_of_store`). What was stored can therefore be loaded
again, and storing what was loaded changes nothing.
-/

namespace Chip8

/-- A place is as far past a start as it lies past it. -/
theorem Address.wrap_add_past (start : Nat) (a : Address) : wrap (start + a.past start) = a := by
  have bound := a.isLt
  have turn : start % 4096 < 4096 := Nat.mod_lt _ (by decide)
  apply Fin.ext
  show (start + (a.val + (4096 - start % 4096)) % 4096) % 4096 = a.val
  omega

namespace Machine

variable {m : Machine} {i : Instruction Nibble} {x : Nibble}

/-- An instruction that is always done puts bytes at the places from I on up to a
last one, and changes nothing else. -/
structure Stores (m : Machine) (i : Instruction Nibble) (last : Nibble)
    (byte : Nibble → UInt8) : Prop where
  done : (m.execute i).outcome = .ok .executed
  there : ∀ k ≤ last,
    (m.execute i).state.memory.byteAt (.wrap (m.index.toNat + k.val)) = byte k
  elsewhere : ∀ a, (∀ k ≤ last, a ≠ Address.wrap (m.index.toNat + k.val)) →
    (m.execute i).state.memory.byteAt a = m.memory.byteAt a
  rest : (m.execute i).state = { m with memory := (m.execute i).state.memory }

theorem stores_of_store {last : Nibble} {bytes : List UInt8} {byte : Nibble → UInt8}
    (does : m.execute i = m.store 0 bytes) (length : bytes.length = last.val + 1)
    (each : ∀ k ≤ last, bytes[k.val]? = some (byte k)) : m.Stores i last byte := by
  have bound := last.isLt
  have short : bytes.length ≤ 4096 := by omega
  have effect : m.execute i =
      executed { m with memory := m.memory.place m.index.toNat bytes } := by
    rw [does, store_eq]
    rfl
  refine ⟨?_, ?_, ?_, ?_⟩
  · rw [effect]
    rfl
  · intro k near
    have inside : k.val < 4096 := by omega
    rw [effect]
    show (m.memory.place m.index.toNat bytes).byteAt _ = _
    rw [Memory.byteAt_place _ _ short, Address.past_wrap_add _ inside, each k near]
    rfl
  · intro a far
    rw [effect]
    refine Memory.byteAt_place_of_le _ short (Nat.le_of_not_lt fun reached => ?_)
    have near : a.past m.index.toNat < 16 := by omega
    refine far ⟨a.past m.index.toNat, near⟩ ?_ (Address.wrap_add_past _ a).symm
    show a.past m.index.toNat ≤ last.val
    omega
  · rw [effect]
    rfl

theorem stores_storeRegs (m : Machine) (x : Nibble) : m.Stores (.storeRegs x) x m.reg := by
  have bound := x.isLt
  refine stores_of_store rfl ?_ ?_
  · simp only [upTo, List.length_map, List.length_take, List.length_finRange]
    omega
  · intro k near
    have within : k.val < x.val + 1 := Nat.lt_succ_of_le near
    simp [upTo, within]

theorem stores_storeDecimal (m : Machine) (x : Nibble) :
    m.Stores (.storeDecimal x) 2 fun k =>
      if k = 0 then m.reg x / 100 else if k = 1 then m.reg x / 10 % 10 else m.reg x % 10 := by
  have does : m.execute (.storeDecimal x) = m.store 0 (decimalDigits (m.reg x)) := rfl
  refine stores_of_store does rfl ?_
  have three : ∀ k : Nibble, k ≤ 2 → k = 0 ∨ k = 1 ∨ k = 2 := by decide
  intro k near
  rcases three k near with rfl | rfl | rfl <;> rfl

theorem execute_loadRegs (m : Machine) (x : Nibble) :
    m.execute (.loadRegs x) = executed
      { m with
        registers := Vector.ofFn fun k =>
          if k ≤ x then m.memory.byteAt (.wrap (m.index.toNat + k.val)) else m.reg k } := by
  simp only [execute, loadEach_eq, mem_upTo]
  rfl

theorem reg_loadRegs (k : Nibble) :
    (m.execute (.loadRegs x)).state.reg k =
      if k ≤ x then m.memory.byteAt (.wrap (m.index.toNat + k.val)) else m.reg k := by
  rw [execute_loadRegs]
  simp [executed, reg, Nibble.get_eq_getElem]

/-- What was stored is loaded again, whatever became of the registers. -/
theorem reg_loadRegs_storeRegs (registers : Registers) {k : Nibble} (near : k ≤ x) :
    ({ (m.execute (.storeRegs x)).state with registers }.execute (.loadRegs x)).state.reg k =
      m.reg k := by
  have stores := m.stores_storeRegs x
  have index : (m.execute (.storeRegs x)).state.index = m.index := by rw [stores.rest]
  rw [reg_loadRegs, if_pos near]
  show (m.execute (.storeRegs x)).state.memory.byteAt (.wrap (_ + k.val)) = _
  rw [index, stores.there k near]

/-- Storing what was loaded puts every byte where it came from. -/
theorem memory_storeRegs_loadRegs :
    ((m.execute (.loadRegs x)).state.execute (.storeRegs x)).state.memory = m.memory := by
  have stores := (m.execute (.loadRegs x)).state.stores_storeRegs x
  have index : (m.execute (.loadRegs x)).state.index = m.index := by
    rw [execute_loadRegs]
    rfl
  have memory : (m.execute (.loadRegs x)).state.memory = m.memory := by
    rw [execute_loadRegs]
    rfl
  apply Memory.ext_byteAt
  intro a
  by_cases reached : ∃ k ≤ x, a = Address.wrap (m.index.toNat + k.val)
  · obtain ⟨k, near, rfl⟩ := reached
    have there := stores.there k near
    rwa [index, reg_loadRegs, if_pos near] at there
  · rw [stores.elsewhere a, memory]
    intro k near same
    rw [index] at same
    exact reached ⟨k, near, same⟩

end Machine

/-- The digits of a byte, read as a number. -/
theorem digits_of_byte (b : UInt8) :
    b / 100 ≤ 9 ∧ b / 10 % 10 ≤ 9 ∧ b % 10 ≤ 9 ∧
      100 * (b / 100).toNat + 10 * (b / 10 % 10).toNat + (b % 10).toNat = b.toNat := by
  have bound := b.toNat_lt
  simp only [UInt8.le_iff_toNat_le, UInt8.toNat_div, UInt8.toNat_mod]
  show b.toNat / 100 ≤ 9 ∧ b.toNat / 10 % 10 ≤ 9 ∧ b.toNat % 10 ≤ 9 ∧
    100 * (b.toNat / 100) + 10 * (b.toNat / 10 % 10) + b.toNat % 10 = b.toNat
  omega

/-- **Bytes go to memory and come back.** The bytes concerned lie at the places from
I on, modulo the size of memory, wherever I points. `Fx55` puts the registers up to
Vx there and changes nothing else, I included; `Fx65` puts the bytes there into the
registers up to Vx and changes nothing else. So `Fx65` gives the registers back
that `Fx55` has stored, whatever they were changed to, and `Fx55` after `Fx65`
leaves memory as it was. `Fx33` puts three digits there that make up Vx, and
changes nothing else. All three are always done. -/
theorem transfers_are_exact (m : Machine) (x : Nibble) :
    let dumped := (m.execute (.storeRegs x)).state
    let load := m.execute (.loadRegs x)
    Instruction.decode? (.ofConstant 0xF x 0x55) = some (.storeRegs x) ∧
    m.Stores (.storeRegs x) x m.reg ∧
    Instruction.decode? (.ofConstant 0xF x 0x65) = some (.loadRegs x) ∧
    load.outcome = .ok .executed ∧
    (∀ k, load.state.reg k =
      if k ≤ x then m.memory.byteAt (.wrap (m.index.toNat + k.val)) else m.reg k) ∧
    load.state = { m with registers := load.state.registers } ∧
    (∀ registers, ∀ k ≤ x,
      ({ dumped with registers }.execute (.loadRegs x)).state.reg k = m.reg k) ∧
    (load.state.execute (.storeRegs x)).state.memory = m.memory ∧
    Instruction.decode? (.ofConstant 0xF x 0x33) = some (.storeDecimal x) ∧
    ∃ h t u : UInt8, h ≤ 9 ∧ t ≤ 9 ∧ u ≤ 9 ∧
      100 * h.toNat + 10 * t.toNat + u.toNat = (m.reg x).toNat ∧
      m.Stores (.storeDecimal x) 2 fun k => if k = 0 then h else if k = 1 then t else u := by
  intro dumped load
  have decoded (i : Instruction Nibble) := @Instruction.decode?_encode i
  obtain ⟨hundreds, tens, ones, sum⟩ := digits_of_byte (m.reg x)
  refine ⟨decoded (.storeRegs x) trivial nofun nofun, m.stores_storeRegs x,
    decoded (.loadRegs x) trivial nofun nofun, ?_, fun _ => Machine.reg_loadRegs _, ?_, ?_,
    Machine.memory_storeRegs_loadRegs, decoded (.storeDecimal x) trivial nofun nofun,
    _, _, _, hundreds, tens, ones, sum, m.stores_storeDecimal x⟩
  · simp only [load, Machine.execute_loadRegs, Machine.executed]
  · simp only [load, Machine.execute_loadRegs, Machine.executed]
  · intro registers k near
    exact Machine.reg_loadRegs_storeRegs registers near

/-- Six registers stored two places before I turns over, and loaded again into
registers that were cleared. -/
theorem transfers_are_exact_past_end :
    let m := { Machine.ofSeed 8 with
      index := 0xFFFE, registers := Vector.ofFn fun k => UInt8.ofNat (0xA0 + k.val) }
    let dumped := (m.execute (.storeRegs 0x5)).state
    (0x2 : Nibble) ≤ 0x5 ∧ dumped.memory.byteAt 0x000 = 0xA2 ∧
      dumped.memory.byteAt 0x004 = m.memory.byteAt 0x004 ∧
      ({ dumped with registers := Vector.replicate 16 0 }.execute (.loadRegs 0x5)).state.reg 0x2 =
        0xA2 := by
  intro m dumped
  have near : (0x2 : Nibble) ≤ 0x5 := by decide
  have place : Address.wrap (m.index.toNat + (0x2 : Nibble).val) = 0x000 := by decide +kernel
  have value : m.reg 0x2 = 0xA2 := by decide +kernel
  have far : ∀ k ≤ (0x5 : Nibble), 0x004 ≠ Address.wrap (m.index.toNat + k.val) := by
    decide +kernel
  obtain ⟨_, stores, _, _, _, _, back, _⟩ := transfers_are_exact m 0x5
  have there := stores.there 0x2 near
  rw [place, value] at there
  exact ⟨near, there, stores.elsewhere 0x004 far, (back _ 0x2 near).trans value⟩

end Chip8
