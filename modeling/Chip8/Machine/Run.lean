import Chip8.Machine.Step

/-!
# Runs

A run is a machine that has been stepped some number of times, with a count of
what became of the steps. Faults that are not fatal are counted and passed
over; a fatal one ends the run, and a run that has ended stays as it is.
-/

namespace Chip8

/-- A machine on its way, and what happened so far. -/
structure Run where
  machine : Machine
  /-- Steps that succeeded. -/
  completed : Nat
  /-- Successful steps that ended a tone. -/
  tones : Nat
  /-- Successful steps that waited for a key. -/
  waits : Nat
  /-- Steps with a fault that was passed over. -/
  passedOver : Nat
  /-- The fault that ended the run. -/
  stopped : Option Fault
  log : Array Event

namespace Run

/-- A run that has not begun. -/
def start (machine : Machine) : Run := ⟨machine, 0, 0, 0, 0, none, #[]⟩

/-- Count the outcome of a step. -/
def record (r : Run) (e : Effect Machine Step) : Run :=
  let r := { r with machine := e.state, log := r.log ++ e.log }
  match e.outcome with
  | .ok s =>
    { r with completed := r.completed + 1, tones := r.tones + s.tone.toNat,
             waits := r.waits + (decide (s.progress = .awaitingKey)).toNat }
  | .error fault =>
    if fault.isFatal then { r with stopped := some fault }
    else { r with passedOver := r.passedOver + 1 }

/-- One more step, unless the run has ended. -/
def advance (r : Run) : Run :=
  match r.stopped with
  | some _ => r
  | none => r.record r.machine.step

/-- Up to some more steps. -/
def go : Nat → Run → Run
  | 0, r => r
  | n + 1, r =>
    match r.stopped with
    | some _ => r
    | none => go n r.advance

/-- The steps attempted, a fatal one included. -/
def attempts (r : Run) : Nat := r.completed + r.passedOver + r.stopped.isSome.toNat

end Run

namespace Machine

/-- Step up to some number of times. -/
def run (m : Machine) (steps : Nat) : Run := (Run.start m).go steps

end Machine

end Chip8
