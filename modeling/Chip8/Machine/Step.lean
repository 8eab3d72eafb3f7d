import Chip8.Machine.Execute

/-!
# Steps

One step fetches the word at the program counter, carries it out and counts
the timers down. A **fatal** fault undoes the step: the program counter stays
on the instruction and the timers stay as they are. After any other fault of
an instruction the step counts all the same, so that whoever goes on has left
the instruction behind. Only the fetch at a program counter past the end of
memory is refused with nothing done.
-/

namespace Chip8

/-- What a successful step reports. -/
structure Step where
  progress : Progress
  /-- The sound timer ran out. -/
  tone : Bool
  deriving DecidableEq

namespace Machine

/-- The word at the program counter; its low byte may lie at the beginning of
memory. -/
def fetch (m : Machine) : Except Fault Word := do
  let high ← m.memory.read m.pc
  let low ← m.memory.read ((m.pc + 1) % 0x1000)
  return .ofBytes high low

/-- Count both timers down to zero. -/
def tickTimers (m : Machine) : Machine :=
  { m with delay := if m.delay = 0 then 0 else m.delay - 1,
           sound := if m.sound = 0 then 0 else m.sound - 1 }

/-- Whether counting down ends the tone. -/
def endsTone (m : Machine) : Bool := m.sound = 1

/-- Carry out an instruction that was fetched at the program counter, then
count the timers down. -/
def stepWith (m : Machine) (i : Instruction Nibble) : Effect Machine Step :=
  let e := m.advance.execute i
  let log := .executing m.pc i :: e.log
  match e.outcome with
  | .ok progress => ⟨.ok ⟨progress, e.state.endsTone⟩, e.state.tickTimers, log⟩
  | .error fault =>
    if fault.isFatal then ⟨.error fault, { e.state with pc := m.pc }, log⟩
    else ⟨.error fault, e.state.tickTimers, log⟩

/-- Fetch, carry out, count down. -/
def step (m : Machine) : Effect Machine Step :=
  match m.fetch with
  | .error fault => ⟨.error fault, m, []⟩
  | .ok word =>
    match Instruction.decode? word with
    | none => ⟨.error (.unknownOpcode word), m, [.unknownOpcode word]⟩
    | some i => m.stepWith i

end Machine

end Chip8
