import Chip8.Instruction.Encoding

/-!
# What decoding yields

A decoded instruction is one the machine can carry out: its address, if it has
one, is a place in memory, and written down by hand it names only registers
and heights that there are.
-/

namespace Chip8.Instruction

variable {ρ : Type} {w : Word} {i : Instruction Nibble} {x : Nibble}

/-- Every address operand is a place in memory. -/
def InMemory : Instruction ρ → Prop
  | sys a | jump a | call a | setIndex a | jumpOffset a => a.toNat < 4096
  | _ => True

/-- Where a jump or a call goes on is a place in memory. -/
def Lands : Instruction ρ → Prop
  | jump a | call a => a.toNat < 4096
  | _ => True

theorem InMemory.lands {i : Instruction ρ} (h : i.InMemory) : i.Lands := by
  cases i with
  | jump a | call a => exact h
  | _ => trivial

theorem lands_map {σ : Type} (f : ρ → σ) (i : Instruction ρ) : (i.map f).Lands ↔ i.Lands := by
  cases i <;> rfl

theorem inMemory_of_decode? (h : decode? w = some i) : i.InMemory := by
  have bound : w.address.toNat < 4096 := by rw [Word.toNat_address]; omega
  unfold decode? at h
  -- one case for each pattern; a word that matches none is no instruction
  repeat' split at h
  all_goals cases h
  all_goals first | exact bound | trivial

/-- The words of the instructions that skip over a key. -/
theorem of_decode?_skip (h : decode? w = some i) (skip : i = skipKey x ∨ i = skipNoKey x) :
    w.family = 0xE ∧ (w.low = 0x9E ∨ w.low = 0xA1) ∧ x = w.x := by
  rcases skip with rfl | rfl
  · unfold decode? at h
    repeat' split at h
    all_goals cases h
    rename_i _ family _ low
    exact ⟨Fin.ext family, .inl (UInt8.toNat_inj.1 low), rfl⟩
  · unfold decode? at h
    repeat' split at h
    all_goals cases h
    rename_i _ family _ low
    exact ⟨Fin.ext family, .inr (UInt8.toNat_inj.1 low), rfl⟩

/-- A decoded instruction written down by hand is still the same instruction. -/
theorem narrow?_widen (i : Instruction Nibble) : i.widen.narrow? = some i := by
  have small (x : Nibble) : x.toByte.toNat < 16 := by
    rw [Nibble.toNat_toByte]
    exact x.isLt
  have back (x : Nibble) : Fin.ofNat 16 x.toByte.toNat = x := by
    rw [Nibble.toNat_toByte]
    exact Fin.ext (Nat.mod_eq_of_lt x.isLt)
  cases i <;>
    simp only [widen, map, narrow?, operands, List.all_cons, List.all_nil, small, back,
      decide_true, Bool.and_self, if_true]

end Chip8.Instruction
