import Chip8.Proofs.Encoding
import Chip8.Proofs.Execute

/-!
# Arithmetic on registers

Five instructions compute a result and a flag. Both are read off the old values
of the registers; the result is put into Vx and the flag into VF after it, so
that VF is the flag also where it is Vx (`flagged`). Five more compute a result
alone (`stored`), and where that goes into VF it stays there. `Computes` states
what such an instruction leaves in every register, as natural numbers, and
`computes_of_setFlag` and `computes_of_setReg` bring it down to arithmetic on
two bytes.
-/

namespace Chip8

namespace Machine

variable {m : Machine} {word : Word} {i : Instruction Nibble} {x : Nibble}

/-- What the registers hold if VF is a flag and Vx, unless that is VF, a result,
and nothing else has changed. -/
def flagged (m : Machine) (x : Nibble) (result flag : Nat) (z : Nibble) : Nat :=
  if z = 0xF then flag else if z = x then result else (m.reg z).toNat

/-- What the registers hold if Vx is a result, be it VF or not, and nothing else
has changed. -/
def stored (m : Machine) (x : Nibble) (result : Nat) (z : Nibble) : Nat :=
  if z = x then result else (m.reg z).toNat

/-- A word means an instruction that is always done, leaves certain values in the
registers and changes nothing but them. -/
structure Computes (m : Machine) (word : Word) (i : Instruction Nibble)
    (values : Nibble → Nat) : Prop where
  decoded : Instruction.decode? word = some i
  done : (m.execute i).outcome = .ok .executed
  reg (z : Nibble) : ((m.execute i).state.reg z).toNat = values z
  rest : (m.execute i).state = { m with registers := (m.execute i).state.registers }

theorem computes_of_setReg (decoded : Instruction.decode? word = some i) {result : UInt8}
    (does : m.execute i = executed (m.setReg x result)) {value : Nat}
    (exact : result.toNat = value) : m.Computes word i (m.stored x value) where
  decoded := decoded
  done := by rw [does]; rfl
  reg z := by
    rw [does, ← exact, stored]
    show ((m.setReg x result).reg z).toNat = _
    rw [reg_setReg]
    by_cases here : z = x
    · rw [if_pos here.symm, if_pos here]
    · rw [if_neg (Ne.symm here), if_neg here]
  rest := by rw [does]; rfl

theorem computes_of_setFlag (decoded : Instruction.decode? word = some i) {result : UInt8}
    {flag : Bool} (does : m.execute i = executed ((m.setReg x result).setFlag flag))
    {value bit : Nat} (exact : result.toNat = value) (sign : (if flag then 1 else 0) = bit) :
    m.Computes word i (m.flagged x value bit) where
  decoded := decoded
  done := by rw [does]; rfl
  reg z := by
    rw [does, ← exact, ← sign, flagged]
    show (((m.setReg x result).setReg 0xF (if flag then 1 else 0)).reg z).toNat = _
    rw [reg_setReg, reg_setReg]
    -- the flag is written after the result, so VF is looked at first
    by_cases last : z = 0xF
    · rw [if_pos last.symm, if_pos last]
      cases flag <;> rfl
    · rw [if_neg (Ne.symm last), if_neg last]
      by_cases here : z = x
      · rw [if_pos here.symm, if_pos here]
      · rw [if_neg (Ne.symm here), if_neg here]
  rest := by rw [does]; rfl

end Machine

namespace Instruction

variable (x y : Nibble)

/-- The third digit of a shift does not matter. -/
theorem decode?_shiftRight : decode? (.ofNibbles 0x8 x y 0x6) = some (shiftRight x) := by
  simp only [decode?, Word.family_ofNibbles, Word.x_ofNibbles, Word.n_ofNibbles]
  rfl

theorem decode?_shiftLeft : decode? (.ofNibbles 0x8 x y 0xE) = some (shiftLeft x) := by
  simp only [decode?, Word.family_ofNibbles, Word.x_ofNibbles, Word.n_ofNibbles]
  rfl

end Instruction

/-- A difference of bytes, with enough added that it is no less than zero. -/
theorem toNat_sub_byte (a b : UInt8) : (a - b).toNat = (256 + a.toNat - b.toNat) % 256 := by
  have bound := b.toNat_lt
  rw [UInt8.toNat_sub]
  omega

/-- **Arithmetic is exact, whatever registers it uses.** Let Vx be `a` and Vy be
`b` before. The sum and the two differences modulo 256, half of `a` and twice `a`
modulo 256 are put into Vx and leave the flag in VF: whether the sum was more
than 255, whether what was taken away was less, and the bit that was shifted out;
the third digit of a shift plays no part. If Vx is VF it is the flag that stays
there. A copy, the bits of either, of both and of exactly one, and the sum with a
constant modulo 256 are put into Vx and leave no flag, also where Vx is VF. No
other register is changed, and nothing but registers. -/
theorem arithmetic_is_exact (m : Machine) (x y : Nibble) (k : UInt8) :
    let a := (m.reg x).toNat
    let b := (m.reg y).toNat
    m.Computes (.ofNibbles 0x8 x y 0x4) (.addReg x y)
      (m.flagged x ((a + b) % 256) (if 255 < a + b then 1 else 0)) ∧
    m.Computes (.ofNibbles 0x8 x y 0x5) (.subReg x y)
      (m.flagged x ((256 + a - b) % 256) (if b < a then 1 else 0)) ∧
    m.Computes (.ofNibbles 0x8 x y 0x7) (.subFrom x y)
      (m.flagged x ((256 + b - a) % 256) (if a < b then 1 else 0)) ∧
    m.Computes (.ofNibbles 0x8 x y 0x6) (.shiftRight x) (m.flagged x (a / 2) (a % 2)) ∧
    m.Computes (.ofNibbles 0x8 x y 0xE) (.shiftLeft x)
      (m.flagged x (2 * a % 256) (a / 128)) ∧
    m.Computes (.ofNibbles 0x8 x y 0x0) (.copy x y) (m.stored x b) ∧
    m.Computes (.ofNibbles 0x8 x y 0x1) (.orReg x y) (m.stored x (a ||| b)) ∧
    m.Computes (.ofNibbles 0x8 x y 0x2) (.andReg x y) (m.stored x (a &&& b)) ∧
    m.Computes (.ofNibbles 0x8 x y 0x3) (.xorReg x y) (m.stored x (a ^^^ b)) ∧
    m.Computes (.ofConstant 0x7 x k) (.addConst x k) (m.stored x ((a + k.toNat) % 256)) := by
  intro a b
  have bound : a < 256 := (m.reg x).toNat_lt
  -- only the words of the shifts have digits that their instructions lack
  have decoded (i : Instruction Nibble) := @Instruction.decode?_encode i
  refine ⟨?add, ?sub, ?away, ?half, ?double, ?copy, ?or, ?and, ?xor, ?constant⟩
  case add =>
    have sum : (m.reg x + m.reg y).toNat = (a + b) % 256 := UInt8.toNat_add _ _
    refine Machine.computes_of_setFlag (decoded (.addReg x y) trivial nofun nofun) rfl sum ?_
    simp only [decide_eq_true_eq, a, b]
  case sub =>
    have difference : (m.reg x - m.reg y).toNat = (256 + a - b) % 256 := toNat_sub_byte _ _
    refine Machine.computes_of_setFlag (decoded (.subReg x y) trivial nofun nofun) rfl
      difference ?_
    simp only [decide_eq_true_eq, UInt8.lt_iff_toNat_lt, a, b]
  case away =>
    have difference : (m.reg y - m.reg x).toNat = (256 + b - a) % 256 := toNat_sub_byte _ _
    refine Machine.computes_of_setFlag (decoded (.subFrom x y) trivial nofun nofun) rfl
      difference ?_
    simp only [decide_eq_true_eq, UInt8.lt_iff_toNat_lt, a, b]
  case half =>
    have half : (m.reg x / 2).toNat = a / 2 := UInt8.toNat_div _ 2
    refine Machine.computes_of_setFlag (Instruction.decode?_shiftRight x y) rfl half ?_
    simp only [decide_eq_true_eq, ← UInt8.toNat_inj, UInt8.toNat_mod]
    show (if a % 2 = 1 then 1 else 0) = a % 2
    split <;> omega
  case double =>
    have double : (m.reg x + m.reg x).toNat = 2 * a % 256 := by
      rw [UInt8.toNat_add, Nat.two_mul]
    refine Machine.computes_of_setFlag (Instruction.decode?_shiftLeft x y) rfl double ?_
    simp only [decide_eq_true_eq, UInt8.le_iff_toNat_le]
    show (if 128 ≤ a then 1 else 0) = a / 128
    split <;> omega
  case copy =>
    exact Machine.computes_of_setReg (decoded (.copy x y) trivial nofun nofun) rfl rfl
  case or =>
    exact Machine.computes_of_setReg (decoded (.orReg x y) trivial nofun nofun) rfl
      (UInt8.toNat_or _ _)
  case and =>
    exact Machine.computes_of_setReg (decoded (.andReg x y) trivial nofun nofun) rfl
      (UInt8.toNat_and _ _)
  case xor =>
    exact Machine.computes_of_setReg (decoded (.xorReg x y) trivial nofun nofun) rfl
      (UInt8.toNat_xor _ _)
  case constant =>
    exact Machine.computes_of_setReg (decoded (.addConst x k) trivial nofun nofun) rfl
      (UInt8.toNat_add _ _)

end Chip8
