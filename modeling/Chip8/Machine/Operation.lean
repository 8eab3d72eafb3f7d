import Chip8.Machine.Step

/-!
# Operations

Everything that can be done to a machine from outside, as data: programs are
loaded, the machine is reset and stepped, single instructions are carried out,
keys move and the screen is drawn on. `perform?` gives each its meaning. It
has no answer only where an instruction written by hand names something the
machine lacks.
-/

namespace Chip8

/-- Something to do to a machine. -/
inductive Operation where
  /-- Put a program into memory. -/
  | load (program : List UInt8)
  /-- Start over, with memory as it is. -/
  | reset
  /-- Start over, with nothing but the font in memory. -/
  | coldReset
  /-- Fetch an instruction, carry it out, count the timers down. -/
  | step
  /-- Carry out an instruction written by hand. -/
  | execute (i : Instruction UInt8)
  /-- Carry out the instruction that a word encodes. -/
  | executeWord (word : Word)
  /-- Carry out instructions written by hand up to the first fault. -/
  | executeAll (is : List (Instruction UInt8))
  /-- Move a key. -/
  | setKey (key : UInt8) (isDown : Bool)
  /-- Let go of every key. -/
  | releaseKeys
  /-- Draw a sprite. -/
  | draw (x y : Nat) (sprite : Sprite)
  /-- Turn every pixel off. -/
  | wipe
  /-- Note that the screen was shown. -/
  | markShown

/-- What an operation has to say. -/
inductive Answer where
  /-- Nothing. -/
  | nothing
  /-- It went well. -/
  | done
  | progress (p : Progress)
  | step (s : Step)
  /-- Whether a lit pixel went out. -/
  | collision (c : Bool)

namespace Machine

/-- Do something to a machine that always works and says nothing. -/
def quietly (m : Machine) (log : List Event) : Effect Machine Answer :=
  ⟨.ok .nothing, m, log⟩

/-- Do something to a machine. -/
def perform? (m : Machine) : Operation → Option (Effect Machine Answer)
  | .load program => some ((m.load program).map fun _ => .done)
  | .reset => some (m.reset.quietly [.wasReset])
  | .coldReset => some (m.coldReset.quietly [.wasReset])
  | .step => some (m.step.map .step)
  | .execute i => (m.executeWritten? i).map (·.map .progress)
  | .executeWord word => some ((m.executeWord word).map .progress)
  | .executeAll is => (m.executeAll? is).map (·.map fun _ => .done)
  | .setKey key isDown =>
    match m.keypad.setPressed key isDown with
    | .ok keypad => some ⟨.ok .done, { m with keypad }, []⟩
    | .error fault => some ⟨.error fault, m, []⟩
  | .releaseKeys => some (quietly { m with keypad := .released } [])
  | .draw x y sprite =>
    some ⟨.ok (.collision (m.display.collides x y sprite)),
      { m with display := m.display.draw x y sprite }, []⟩
  | .wipe => some (quietly { m with display := .wiped } [])
  | .markShown => some (quietly { m with display := m.display.shown } [])

end Machine

end Chip8
