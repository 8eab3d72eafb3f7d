import Chip8.Instruction

/-!
# Instructions as words

`decode?` reads a word by its family nibble and, within the families `5`, `8`,
`9`, `E` and `F`, by the bits that tell their members apart; a word no pattern
covers is `none`, and what that means is up to the machine. `encode` stamps
operands into the pattern that each constructor's comment gives. The two
shifts have no second operand, so `encode` leaves that nibble zero and
`decode?` ignores it.
-/

namespace Chip8.Instruction

/-- The instruction that a word encodes. -/
def decode? (w : Word) : Option (Instruction Nibble) :=
  match w.family.val with
  | 0x0 =>
    if w = 0x00E0 then some clearScreen
    else if w = 0x00EE then some ret
    else some (sys w.address)
  | 0x1 => some (jump w.address)
  | 0x2 => some (call w.address)
  | 0x3 => some (skipEq w.x w.low)
  | 0x4 => some (skipNe w.x w.low)
  | 0x5 => if w.n = 0 then some (skipSame w.x w.y) else none
  | 0x6 => some (setConst w.x w.low)
  | 0x7 => some (addConst w.x w.low)
  | 0x8 =>
    match w.n.val with
    | 0x0 => some (copy w.x w.y)
    | 0x1 => some (orReg w.x w.y)
    | 0x2 => some (andReg w.x w.y)
    | 0x3 => some (xorReg w.x w.y)
    | 0x4 => some (addReg w.x w.y)
    | 0x5 => some (subReg w.x w.y)
    | 0x6 => some (shiftRight w.x)
    | 0x7 => some (subFrom w.x w.y)
    | 0xE => some (shiftLeft w.x)
    | _ => none
  | 0x9 => if w.n = 0 then some (skipDiffer w.x w.y) else none
  | 0xA => some (setIndex w.address)
  | 0xB => some (jumpOffset w.address)
  | 0xC => some (random w.x w.low)
  | 0xD => some (draw w.x w.y w.n)
  | 0xE =>
    match w.low.toNat with
    | 0x9E => some (skipKey w.x)
    | 0xA1 => some (skipNoKey w.x)
    | _ => none
  | _ =>
    match w.low.toNat with
    | 0x07 => some (readDelay w.x)
    | 0x0A => some (awaitKey w.x)
    | 0x15 => some (setDelay w.x)
    | 0x18 => some (setSound w.x)
    | 0x1E => some (addIndex w.x)
    | 0x29 => some (pointGlyph w.x)
    | 0x33 => some (storeDecimal w.x)
    | 0x55 => some (storeRegs w.x)
    | 0x65 => some (loadRegs w.x)
    | _ => none

/-- The word of an instruction. Of an address operand only the low twelve bits
are kept, since a word has no room for more. -/
def encode : Instruction Nibble → Word
  | sys a => .ofAddress 0x0 a
  | clearScreen => 0x00E0
  | ret => 0x00EE
  | jump a => .ofAddress 0x1 a
  | call a => .ofAddress 0x2 a
  | skipEq x k => .ofConstant 0x3 x k
  | skipNe x k => .ofConstant 0x4 x k
  | skipSame x y => .ofNibbles 0x5 x y 0x0
  | setConst x k => .ofConstant 0x6 x k
  | addConst x k => .ofConstant 0x7 x k
  | copy x y => .ofNibbles 0x8 x y 0x0
  | orReg x y => .ofNibbles 0x8 x y 0x1
  | andReg x y => .ofNibbles 0x8 x y 0x2
  | xorReg x y => .ofNibbles 0x8 x y 0x3
  | addReg x y => .ofNibbles 0x8 x y 0x4
  | subReg x y => .ofNibbles 0x8 x y 0x5
  | shiftRight x => .ofNibbles 0x8 x 0x0 0x6
  | subFrom x y => .ofNibbles 0x8 x y 0x7
  | shiftLeft x => .ofNibbles 0x8 x 0x0 0xE
  | skipDiffer x y => .ofNibbles 0x9 x y 0x0
  | setIndex a => .ofAddress 0xA a
  | jumpOffset a => .ofAddress 0xB a
  | random x k => .ofConstant 0xC x k
  | draw x y n => .ofNibbles 0xD x y n
  | skipKey x => .ofConstant 0xE x 0x9E
  | skipNoKey x => .ofConstant 0xE x 0xA1
  | readDelay x => .ofConstant 0xF x 0x07
  | awaitKey x => .ofConstant 0xF x 0x0A
  | setDelay x => .ofConstant 0xF x 0x15
  | setSound x => .ofConstant 0xF x 0x18
  | addIndex x => .ofConstant 0xF x 0x1E
  | pointGlyph x => .ofConstant 0xF x 0x29
  | storeDecimal x => .ofConstant 0xF x 0x33
  | storeRegs x => .ofConstant 0xF x 0x55
  | loadRegs x => .ofConstant 0xF x 0x65

end Chip8.Instruction
