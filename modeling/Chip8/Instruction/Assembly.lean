import Chip8.Instruction
import Chip8.Numeral

/-!
# Assembly text

The listing form of an instruction, in two stages. `assembly` gives the
statement: a mnemonic and its operands. `Statement.signs` lays it out: a blank
after the mnemonic, operands set off by a comma and a blank. The instruction
can be recovered from the statement, and the statement from its text, because
no operand contains a blank or a comma and no two operands look alike.
-/

namespace Chip8

open Numeral

/-- What stands in an operand position. -/
inductive Operand where
  /-- A register by its number. -/
  | register (number : UInt8)
  /-- An address, at least three digits wide. -/
  | address (value : UInt16)
  /-- A constant, at least two digits wide. -/
  | constant (value : UInt8)
  /-- The height of a sprite, in decimal. -/
  | height (rows : UInt8)
  /-- The index register. -/
  | index
  /-- The memory the index register points at. -/
  | atIndex
  /-- The delay timer. -/
  | delayTimer
  /-- The sound timer. -/
  | soundTimer
  /-- A key press. -/
  | keyPress
  /-- The glyph of a digit. -/
  | glyph
  /-- The decimal digits of a byte. -/
  | decimalDigits
  deriving DecidableEq

/-- How an operand is written. -/
def Operand.signs : Operand → List Char
  | register number => 'V' :: hexUpperSigns number.toNat
  | address value => '0' :: 'x' :: hexSigns 3 value.toNat
  | constant value => '0' :: 'x' :: hexSigns 2 value.toNat
  | height rows => decimalSigns rows.toNat
  | index => ['I']
  | atIndex => ['[', 'I', ']']
  | delayTimer => ['D', 'T']
  | soundTimer => ['S', 'T']
  | keyPress => ['K']
  | glyph => ['F']
  | decimalDigits => ['B']

/-- The mnemonics. -/
inductive Mnemonic where
  | sys | cls | ret | jp | call | se | sne | ld | add | or | and | xor | sub | shr | subn | shl
  | rnd | drw | skp | sknp
  deriving DecidableEq

/-- How a mnemonic is written. -/
def Mnemonic.signs : Mnemonic → List Char
  | sys => ['S', 'Y', 'S']
  | cls => ['C', 'L', 'S']
  | ret => ['R', 'E', 'T']
  | jp => ['J', 'P']
  | call => ['C', 'A', 'L', 'L']
  | se => ['S', 'E']
  | sne => ['S', 'N', 'E']
  | ld => ['L', 'D']
  | add => ['A', 'D', 'D']
  | or => ['O', 'R']
  | and => ['A', 'N', 'D']
  | xor => ['X', 'O', 'R']
  | sub => ['S', 'U', 'B']
  | shr => ['S', 'H', 'R']
  | subn => ['S', 'U', 'B', 'N']
  | shl => ['S', 'H', 'L']
  | rnd => ['R', 'N', 'D']
  | drw => ['D', 'R', 'W']
  | skp => ['S', 'K', 'P']
  | sknp => ['S', 'K', 'N', 'P']

/-- A line of assembly. -/
structure Statement where
  mnemonic : Mnemonic
  operands : List Operand
  deriving DecidableEq

/-- Operands in a row, the second and later ones after a comma and a blank. -/
def Operand.listSigns : List Operand → List Char
  | [] => []
  | [o] => o.signs
  | o :: rest => o.signs ++ ',' :: ' ' :: listSigns rest

/-- How a statement is written. -/
def Statement.signs (s : Statement) : List Char :=
  match s.operands with
  | [] => s.mnemonic.signs
  | operands => s.mnemonic.signs ++ ' ' :: Operand.listSigns operands

namespace Instruction

open Operand

/-- The statement of an instruction. The jump with an offset names V0, the
register it adds. -/
def assembly : Instruction UInt8 → Statement
  | sys a => ⟨.sys, [address a]⟩
  | clearScreen => ⟨.cls, []⟩
  | ret => ⟨.ret, []⟩
  | jump a => ⟨.jp, [address a]⟩
  | call a => ⟨.call, [address a]⟩
  | skipEq x k => ⟨.se, [register x, constant k]⟩
  | skipNe x k => ⟨.sne, [register x, constant k]⟩
  | skipSame x y => ⟨.se, [register x, register y]⟩
  | setConst x k => ⟨.ld, [register x, constant k]⟩
  | addConst x k => ⟨.add, [register x, constant k]⟩
  | copy x y => ⟨.ld, [register x, register y]⟩
  | orReg x y => ⟨.or, [register x, register y]⟩
  | andReg x y => ⟨.and, [register x, register y]⟩
  | xorReg x y => ⟨.xor, [register x, register y]⟩
  | addReg x y => ⟨.add, [register x, register y]⟩
  | subReg x y => ⟨.sub, [register x, register y]⟩
  | shiftRight x => ⟨.shr, [register x]⟩
  | subFrom x y => ⟨.subn, [register x, register y]⟩
  | shiftLeft x => ⟨.shl, [register x]⟩
  | skipDiffer x y => ⟨.sne, [register x, register y]⟩
  | setIndex a => ⟨.ld, [index, address a]⟩
  | jumpOffset a => ⟨.jp, [register 0, address a]⟩
  | random x k => ⟨.rnd, [register x, constant k]⟩
  | draw x y n => ⟨.drw, [register x, register y, height n]⟩
  | skipKey x => ⟨.skp, [register x]⟩
  | skipNoKey x => ⟨.sknp, [register x]⟩
  | readDelay x => ⟨.ld, [register x, delayTimer]⟩
  | awaitKey x => ⟨.ld, [register x, keyPress]⟩
  | setDelay x => ⟨.ld, [delayTimer, register x]⟩
  | setSound x => ⟨.ld, [soundTimer, register x]⟩
  | addIndex x => ⟨.add, [index, register x]⟩
  | pointGlyph x => ⟨.ld, [glyph, register x]⟩
  | storeDecimal x => ⟨.ld, [decimalDigits, register x]⟩
  | storeRegs x => ⟨.ld, [atIndex, register x]⟩
  | loadRegs x => ⟨.ld, [register x, atIndex]⟩

/-- An instruction in assembly. -/
def text (i : Instruction UInt8) : String := String.ofList i.assembly.signs

end Instruction

end Chip8
