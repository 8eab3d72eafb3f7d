import Chip8.Keypad
import Chip8.Screen

/-!
# Devices

What a host connects a machine to. An input device may move keys whenever it
is polled; an output device is shown frames and sounds tones. Both are values
that change as they are used. The devices here need no hardware: no input at
all, input from a script, and output that is only recorded.
-/

namespace Chip8

/-- Something that moves keys. -/
class InputDevice (ι : Type) where
  /-- Let the device move the keys of a keypad. -/
  poll : ι → Keypad → ι × Keypad

/-- Something that shows frames and sounds tones. -/
class OutputDevice (ω : Type) where
  /-- Show a frame. -/
  present : ω → Screen → ω
  /-- Sound a short tone. -/
  beep : ω → ω

/-- No input. -/
structure NoInput where

instance : InputDevice NoInput where
  poll device keypad := (device, keypad)

/-- A key that moves on a certain poll, counted from zero. -/
structure KeyMove where
  poll : Nat
  key : UInt8
  isDown : Bool
  deriving DecidableEq

/-- Input from a script, and the number of times it was polled. -/
structure Script where
  moves : List KeyMove
  polls : Nat
  deriving DecidableEq

namespace Script

/-- A script from its beginning. -/
def start (moves : List KeyMove) : Script := ⟨moves, 0⟩

/-- Make a move, or nothing if there is no such key. -/
def apply (keypad : Keypad) (move : KeyMove) : Keypad :=
  match keypad.setPressed move.key move.isDown with
  | .ok moved => moved
  | .error _ => keypad

/-- The keypad after the moves of one poll, in the order of the script. -/
def applyAt (s : Script) (poll : Nat) (keypad : Keypad) : Keypad :=
  (s.moves.filter (·.poll = poll)).foldl apply keypad

instance : InputDevice Script where
  poll s keypad := ({ s with polls := s.polls + 1 }, s.applyAt s.polls keypad)

end Script

/-- Output that only keeps the last frame, as text, and counts. -/
structure Recorder where
  lastFrame : Option String
  frames : Nat
  beeps : Nat
  deriving DecidableEq

namespace Recorder

/-- A recorder that was given nothing yet. -/
def empty : Recorder := ⟨none, 0, 0⟩

instance : OutputDevice Recorder where
  present r screen := { r with lastFrame := some screen.text, frames := r.frames + 1 }
  beep r := { r with beeps := r.beeps + 1 }

end Recorder

end Chip8
