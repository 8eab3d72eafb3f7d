import Chip8.Device

/-!
# The keyboard

A terminal reports that a key was pressed and never that it was let go. A
`KeyBuffer` makes up for this: a key counts as held for a while after it was
last pressed. The left side of a QWERTY keyboard stands for the keypad, and
`Keyboard` is the input device that holds down just the keys that are held.
What it presses are bytes, and a byte that names no key is passed over.
-/

namespace Chip8

/-- A key of a terminal's keyboard. -/
inductive KeyCode where
  | backspace | enter | left | right | up | down | home | endKey | pageUp | pageDown | tab
  | backTab | delete | insert | null | esc
  /-- A numbered function key. -/
  | function (number : Nat)
  /-- A key that types a character. -/
  | char (c : Char)
  deriving DecidableEq

namespace KeyCode

/-- The byte of the key that a character stands for. -/
def layout? : Char → Option UInt8
  | '1' => some 0x1
  | '2' => some 0x2
  | '3' => some 0x3
  | '4' => some 0xC
  | 'q' => some 0x4
  | 'w' => some 0x5
  | 'e' => some 0x6
  | 'r' => some 0xD
  | 'a' => some 0x7
  | 's' => some 0x8
  | 'd' => some 0x9
  | 'f' => some 0xE
  | 'z' => some 0xA
  | 'x' => some 0x0
  | 'c' => some 0xB
  | 'v' => some 0xF
  | _ => none

/-- The byte of the key of the keypad that a key stands for. Capital letters of
ASCII count as small ones. -/
def keypad? : KeyCode → Option UInt8
  | char c => layout? c.toLower
  | _ => none

end KeyCode

namespace Keypad

/-- Press the keys that bytes name, one after another, together with the faults
of the bytes that name none. -/
def pressAll (k : Keypad) : List UInt8 → Keypad × List Fault
  | [] => (k, [])
  | key :: rest =>
    match k.setPressed key true with
    | .ok pressed => pressed.pressAll rest
    | .error fault =>
      let (pressed, faults) := k.pressAll rest
      (pressed, fault :: faults)

end Keypad

/-- The keys pressed lately, in the order of their first press, each with the
time of its last. -/
structure KeyBuffer where
  /-- How long a key counts as held. -/
  timeout : Nat
  presses : List (KeyCode × Nat)

namespace KeyBuffer

/-- No key pressed. -/
def empty (timeout : Nat) : KeyBuffer := ⟨timeout, []⟩

/-- The presses after one more: a key known already is only made younger. -/
def record (code : KeyCode) (now : Nat) : List (KeyCode × Nat) → List (KeyCode × Nat)
  | [] => [(code, now)]
  | (c, t) :: rest => if c = code then (c, now) :: rest else (c, t) :: record code now rest

/-- A key was pressed. -/
def push (b : KeyBuffer) (code : KeyCode) (now : Nat) : KeyBuffer :=
  { b with presses := record code now b.presses }

/-- Forget the presses that are too old, and any that lie in the future. -/
def settle (b : KeyBuffer) (now : Nat) : KeyBuffer :=
  { b with presses := b.presses.filter fun p => p.2 ≤ now ∧ now - p.2 < b.timeout }

/-- The keys remembered, in the order of their first press. -/
def codes (b : KeyBuffer) : List KeyCode := b.presses.map (·.1)

/-- The keys that count as held. -/
def held (b : KeyBuffer) (now : Nat) : List KeyCode := (b.settle now).codes

/-- Whether a key counts as held. -/
def isHeld (b : KeyBuffer) (now : Nat) (code : KeyCode) : Bool := (b.held now).contains code

/-- The keypad once every key was let go of and then those that held keys stand
for were pressed, together with the faults on the way. -/
def update (b : KeyBuffer) (now : Nat) (_ : Keypad) : Keypad × List Fault :=
  Keypad.released.pressAll ((b.held now).filterMap KeyCode.keypad?)

end KeyBuffer

/-- A keyboard at a moment. -/
structure Keyboard where
  buffer : KeyBuffer
  now : Nat

namespace Keyboard

/-- The keyboard once what it has forgotten is gone. -/
def settle (k : Keyboard) : Keyboard := { k with buffer := k.buffer.settle k.now }

instance : InputDevice Keyboard where
  poll k keypad := (k.settle, (k.buffer.update k.now keypad).1)

end Keyboard

end Chip8
