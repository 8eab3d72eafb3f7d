import Chip8.Word

/-!
# Instructions

The 35 instructions of the machine. Addresses are 16 bits and constants 8 bits
wide; the type is parametric in the operands that a word has only four bits
for, registers and the height of a sprite:

* `Instruction Nibble` is what a word can encode and what the machine can
  carry out;
* `Instruction UInt8` is what can be written down by hand. Of these `narrow?`
  keeps exactly the ones that name existing registers and a sprite height a
  word has room for.
-/

namespace Chip8

/-- An instruction whose registers and sprite height are drawn from `ρ`. -/
inductive Instruction (ρ : Type) where
  /-- `0nnn`: run a routine of the host processor, which no machine here has. -/
  | sys (target : UInt16)
  /-- `00E0`: turn every pixel off. -/
  | clearScreen
  /-- `00EE`: go back to after the most recent call. -/
  | ret
  /-- `1nnn`: go on at an address. -/
  | jump (target : UInt16)
  /-- `2nnn`: go on at an address and remember where from. -/
  | call (target : UInt16)
  /-- `3xnn`: skip an instruction if Vx is the constant. -/
  | skipEq (x : ρ) (k : UInt8)
  /-- `4xnn`: skip an instruction unless Vx is the constant. -/
  | skipNe (x : ρ) (k : UInt8)
  /-- `5xy0`: skip an instruction if Vx is Vy. -/
  | skipSame (x y : ρ)
  /-- `6xnn`: put the constant into Vx. -/
  | setConst (x : ρ) (k : UInt8)
  /-- `7xnn`: add the constant to Vx, without a flag. -/
  | addConst (x : ρ) (k : UInt8)
  /-- `8xy0`: put Vy into Vx. -/
  | copy (x y : ρ)
  /-- `8xy1`: the bits of Vx or Vy. -/
  | orReg (x y : ρ)
  /-- `8xy2`: the bits of both Vx and Vy. -/
  | andReg (x y : ρ)
  /-- `8xy3`: the bits of exactly one of Vx and Vy. -/
  | xorReg (x y : ρ)
  /-- `8xy4`: add Vy to Vx; the flag is the carry. -/
  | addReg (x y : ρ)
  /-- `8xy5`: take Vy from Vx; the flag says that Vx was the larger. -/
  | subReg (x y : ρ)
  /-- `8x-6`: halve Vx; the flag is the bit that falls out. -/
  | shiftRight (x : ρ)
  /-- `8xy7`: put Vy less Vx into Vx; the flag says that Vy was the larger. -/
  | subFrom (x y : ρ)
  /-- `8x-E`: double Vx; the flag is the bit that falls out. -/
  | shiftLeft (x : ρ)
  /-- `9xy0`: skip an instruction unless Vx is Vy. -/
  | skipDiffer (x y : ρ)
  /-- `Annn`: put an address into I. -/
  | setIndex (target : UInt16)
  /-- `Bnnn`: go on at an address plus V0. -/
  | jumpOffset (target : UInt16)
  /-- `Cxnn`: put a random byte into Vx, masked with the constant. -/
  | random (x : ρ) (k : UInt8)
  /-- `Dxyn`: draw the `n` bytes at I as a sprite at (Vx, Vy); the flag says
  that a lit pixel went out. -/
  | draw (x y n : ρ)
  /-- `Ex9E`: skip an instruction if the key Vx is pressed. -/
  | skipKey (x : ρ)
  /-- `ExA1`: skip an instruction unless the key Vx is pressed. -/
  | skipNoKey (x : ρ)
  /-- `Fx07`: put the delay timer into Vx. -/
  | readDelay (x : ρ)
  /-- `Fx0A`: wait for a key and put it into Vx. -/
  | awaitKey (x : ρ)
  /-- `Fx15`: put Vx into the delay timer. -/
  | setDelay (x : ρ)
  /-- `Fx18`: put Vx into the sound timer. -/
  | setSound (x : ρ)
  /-- `Fx1E`: add Vx to I. -/
  | addIndex (x : ρ)
  /-- `Fx29`: point I at the glyph of the low digit of Vx. -/
  | pointGlyph (x : ρ)
  /-- `Fx33`: store the three decimal digits of Vx at I. -/
  | storeDecimal (x : ρ)
  /-- `Fx55`: store V0 up to Vx at I. -/
  | storeRegs (x : ρ)
  /-- `Fx65`: load V0 up to Vx from I. -/
  | loadRegs (x : ρ)
  deriving DecidableEq

namespace Instruction

variable {ρ σ : Type}

/-- Change every register and height operand by a function. -/
def map (f : ρ → σ) : Instruction ρ → Instruction σ
  | sys a => sys a
  | clearScreen => clearScreen
  | ret => ret
  | jump a => jump a
  | call a => call a
  | skipEq x k => skipEq (f x) k
  | skipNe x k => skipNe (f x) k
  | skipSame x y => skipSame (f x) (f y)
  | setConst x k => setConst (f x) k
  | addConst x k => addConst (f x) k
  | copy x y => copy (f x) (f y)
  | orReg x y => orReg (f x) (f y)
  | andReg x y => andReg (f x) (f y)
  | xorReg x y => xorReg (f x) (f y)
  | addReg x y => addReg (f x) (f y)
  | subReg x y => subReg (f x) (f y)
  | shiftRight x => shiftRight (f x)
  | subFrom x y => subFrom (f x) (f y)
  | shiftLeft x => shiftLeft (f x)
  | skipDiffer x y => skipDiffer (f x) (f y)
  | setIndex a => setIndex a
  | jumpOffset a => jumpOffset a
  | random x k => random (f x) k
  | draw x y n => draw (f x) (f y) (f n)
  | skipKey x => skipKey (f x)
  | skipNoKey x => skipNoKey (f x)
  | readDelay x => readDelay (f x)
  | awaitKey x => awaitKey (f x)
  | setDelay x => setDelay (f x)
  | setSound x => setSound (f x)
  | addIndex x => addIndex (f x)
  | pointGlyph x => pointGlyph (f x)
  | storeDecimal x => storeDecimal (f x)
  | storeRegs x => storeRegs (f x)
  | loadRegs x => loadRegs (f x)

/-- The register and height operands, in order. -/
def operands : Instruction ρ → List ρ
  | sys _ | clearScreen | ret | jump _ | call _ | setIndex _ | jumpOffset _ => []
  | skipEq x _ | skipNe x _ | setConst x _ | addConst x _ | random x _ => [x]
  | skipSame x y | copy x y | orReg x y | andReg x y | xorReg x y | addReg x y
  | subReg x y | subFrom x y | skipDiffer x y => [x, y]
  | shiftRight x | shiftLeft x | skipKey x | skipNoKey x | readDelay x | awaitKey x
  | setDelay x | setSound x | addIndex x | pointGlyph x | storeDecimal x | storeRegs x
  | loadRegs x => [x]
  | draw x y n => [x, y, n]

/-- The instruction as it would be written by hand. -/
def widen (i : Instruction Nibble) : Instruction UInt8 := i.map Nibble.toByte

/-- The instruction the machine can carry out, if each register and the sprite
height fit into four bits. -/
def narrow? (i : Instruction UInt8) : Option (Instruction Nibble) :=
  if i.operands.all (·.toNat < 16) then some (i.map fun b => Fin.ofNat 16 b.toNat)
  else none

end Instruction

end Chip8
