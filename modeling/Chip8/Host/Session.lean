import Chip8.Host

/-!
# Sessions

A session ticks a host some number of times and ends early at the first fatal
fault; other faults are passed over. `Host.Action` lists everything that can
be done to a host, sessions included.
-/

namespace Chip8.Host

variable {ι ω : Type} [InputDevice ι] [OutputDevice ω]

/-- A host on its way, and what happened so far. -/
structure Session (ι ω : Type) where
  host : Host ι ω
  /-- Ticks attempted, a fatal one included. -/
  ticks : Nat
  /-- The fault that ended the session, if one did. -/
  outcome : Except Fault Unit
  log : Array Event

namespace Session

/-- A session that has not begun. -/
def start (host : Host ι ω) : Session ι ω := ⟨host, 0, .ok (), #[]⟩

/-- The outcome of a session that a tick with the given outcome was part of. -/
def judge : Except Fault Step → Except Fault Unit
  | .ok _ => .ok ()
  | .error fault => if fault.isFatal then .error fault else .ok ()

/-- One more tick. -/
def advance (s : Session ι ω) : Session ι ω :=
  let e := s.host.tick
  ⟨e.state, s.ticks + 1, judge e.outcome, s.log ++ e.log⟩

/-- Up to some more ticks. -/
def go : Nat → Session ι ω → Session ι ω
  | 0, s => s
  | n + 1, s =>
    match s.outcome with
    | .ok () => go n s.advance
    | .error _ => s

end Session

/-- Tick up to some number of times. -/
def run (h : Host ι ω) (ticks : Nat) : Session ι ω := (Session.start h).go ticks

/-- Something to do to a host. -/
inductive Action where
  /-- One tick. -/
  | tick
  /-- Up to some number of ticks. -/
  | run (ticks : Nat)
  /-- Start over with a program. -/
  | load (program : List UInt8)
  /-- Do something to the machine. -/
  | operate (op : Operation)

/-- Do something to a host. There is no answer where the machine has none. -/
def perform? (h : Host ι ω) : Action → Option (Effect (Host ι ω) Answer)
  | .tick => some (h.tick.map .step)
  | .run ticks =>
    let s := h.run ticks
    some ⟨s.outcome.map fun _ => .done, s.host, s.log.toList⟩
  | .load program => some ((h.load program).map fun _ => .done)
  | .operate op => h.operate? op

end Chip8.Host
