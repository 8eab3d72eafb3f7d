import Chip8.Device
import Chip8.Machine.Operation

/-!
# The host

A machine between an input and an output device. On every tick the host polls
the input, steps the machine, shows the screen if it was drawn on, and sounds
a tone that ended. Once a fatal fault has been seen the host is **halted**:
every further tick reports that fault and does nothing else, until a program
is loaded.
-/

namespace Chip8

/-- How fast a host runs. -/
structure Pacing where
  /-- Steps, and with them timer ticks, per second; zero is as fast as
  possible. -/
  stepsPerSecond : UInt32
  deriving DecidableEq

namespace Pacing

/-- The pace most programs are written for. -/
def usual : Pacing := ⟨120⟩

/-- How long to pause after each step, in whole nanoseconds. -/
def delay? (p : Pacing) : Option Nat :=
  if p.stepsPerSecond = 0 then none else some (1000000000 / p.stepsPerSecond.toNat)

end Pacing

/-- A machine with its devices. -/
structure Host (ι ω : Type) where
  machine : Machine
  input : ι
  output : ω
  pacing : Pacing
  /-- The fault that stopped the host, if it is halted. -/
  halted : Option Fault

namespace Host

variable {ι ω : Type}

/-- A host that is not halted. -/
def new (machine : Machine) (input : ι) (output : ω) (pacing : Pacing) : Host ι ω :=
  ⟨machine, input, output, pacing, none⟩

/-- Show the screen if it was drawn on since it was last shown. -/
def refresh [OutputDevice ω] (h : Host ι ω) : Host ι ω :=
  if h.machine.display.dirty then
    { h with
      output := OutputDevice.present h.output h.machine.display.screen,
      machine := { h.machine with display := h.machine.display.shown } }
  else h

/-- Sound a tone if there is one. -/
def sound [OutputDevice ω] (h : Host ι ω) (tone : Bool) : Host ι ω :=
  if tone then { h with output := OutputDevice.beep h.output } else h

/-- Poll the input, step, show, sound. -/
def tick [InputDevice ι] [OutputDevice ω] (h : Host ι ω) : Effect (Host ι ω) Step :=
  match h.halted with
  | some fault => ⟨.error fault, h, []⟩
  | none =>
    let (input, keypad) := InputDevice.poll h.input h.machine.keypad
    let e := { h.machine with keypad }.step
    let h := { h with input, machine := e.state }.refresh
    match e.outcome with
    | .ok s => ⟨.ok s, h.sound s.tone, e.log⟩
    | .error fault =>
      if fault.isFatal then
        ⟨.error fault, { h with halted := some fault }, e.log ++ [.halting h.machine.pc fault]⟩
      else ⟨.error fault, h, e.log ++ [.ignoring h.machine.pc fault]⟩

/-- Start over with a program. This ends a halt, unless the program is too
large, which halts the host itself. -/
def load (h : Host ι ω) (program : List UInt8) : Effect (Host ι ω) Unit :=
  let e := h.machine.coldReset.load program
  match e.outcome with
  | .ok () => ⟨.ok (), { h with machine := e.state, halted := none }, .wasReset :: e.log⟩
  | .error fault =>
    ⟨.error fault, { h with machine := e.state, halted := some fault },
      .wasReset :: e.log ++ [.loadFailed fault]⟩

/-- Do something to the machine behind the host's back. -/
def operate? (h : Host ι ω) (op : Operation) : Option (Effect (Host ι ω) Answer) :=
  (h.machine.perform? op).map fun e => ⟨e.outcome, { h with machine := e.state }, e.log⟩

end Host

end Chip8
