import Chip8.CallStack
import Chip8.Display
import Chip8.Event
import Chip8.Keypad
import Chip8.Memory
import Chip8.Random.Generator

/-!
# The machine

The state of the machine, and the result type of everything that acts on one.
The program counter and the index register are 16 bits wide though memory has
only 12-bit addresses: what happens past the end is part of the behaviour. The
index register counts freely and is wrapped where it is used; the program
counter is wrapped whenever it moves on, and only a jump by hand can put it
past the end.
-/

namespace Chip8

/-- The registers V0 to VF. -/
abbrev Registers := Vector UInt8 16

/-- What acting on something leaves behind: an answer or a fault, what was
acted on in its state afterwards, and the events on the way, oldest first. -/
structure Effect (σ α : Type) where
  outcome : Except Fault α
  state : σ
  log : List Event

/-- Give the same answer in another form. -/
def Effect.map {σ α β : Type} (f : α → β) (e : Effect σ α) : Effect σ β :=
  ⟨e.outcome.map f, e.state, e.log⟩

/-- The state of the machine. -/
structure Machine where
  memory : Memory
  registers : Registers
  /-- The index register I. -/
  index : UInt16
  /-- The program counter. -/
  pc : UInt16
  stack : CallStack
  /-- The delay timer. -/
  delay : UInt8
  /-- The sound timer. -/
  sound : UInt8
  display : Display
  keypad : Keypad
  random : Generator

namespace Machine

/-- A machine with the given memory and random numbers and everything else at
rest. -/
def withMemory (memory : Memory) (random : Generator) : Machine where
  memory
  registers := Vector.replicate 16 0
  index := 0
  pc := Memory.programStart
  stack := .empty
  delay := 0
  sound := 0
  display := .initial
  keypad := .released
  random

/-- A machine with the font and nothing else in memory. -/
def new (random : Generator) : Machine := withMemory .fresh random

/-- A machine whose random numbers a seed determines. -/
def ofSeed (seed : UInt64) : Machine := new (.ofSeed seed)

/-- Start over with memory and random numbers as they are. -/
def reset (m : Machine) : Machine :=
  { withMemory m.memory m.random with display := .wiped }

/-- Start over with nothing but the font in memory and the random numbers as
they are. -/
def coldReset (m : Machine) : Machine := { m with memory := .fresh }.reset

/-- Put a program into memory. -/
def load (m : Machine) (program : List UInt8) : Effect Machine Unit :=
  match m.memory.install program with
  | .ok memory => ⟨.ok (), { m with memory }, [.loaded program.length]⟩
  | .error fault => ⟨.error fault, m, []⟩

/-- The value of a register. -/
def reg (m : Machine) (x : Nibble) : UInt8 := m.registers.get x

/-- Change a register. -/
def setReg (m : Machine) (x : Nibble) (b : UInt8) : Machine :=
  { m with registers := m.registers.set x b x.val_lt }

/-- Put a condition into VF, the register that doubles as flag. -/
def setFlag (m : Machine) (c : Bool) : Machine := m.setReg 0xF (if c then 1 else 0)

/-- The address after the instruction at an address. -/
def addressAfter (pc : UInt16) : UInt16 := UInt16.ofNat ((pc.toNat + 2) % 4096)

/-- The address of the instruction before an address. -/
def addressBefore (pc : UInt16) : UInt16 := UInt16.ofNat ((pc.toNat + 4094) % 4096)

/-- Move the program counter past an instruction. -/
def advance (m : Machine) : Machine := { m with pc := addressAfter m.pc }

/-- Move the program counter past an instruction if a condition holds. -/
def skipIf (m : Machine) (c : Bool) : Machine := if c then m.advance else m

/-- A register holds what was put into it, and the others what they held. -/
theorem reg_setReg (m : Machine) (x y : Nibble) (b : UInt8) :
    (m.setReg x b).reg y = if x = y then b else m.reg y := by
  simp [setReg, reg, Nibble.get_eq_getElem, Vector.getElem_set, Fin.ext_iff]

end Machine

end Chip8
