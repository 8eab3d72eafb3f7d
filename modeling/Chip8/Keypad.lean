import Chip8.Fault
import Chip8.Word

/-!
# The keypad

Sixteen keys, each down or up. Keys come from programs and from the outside as
bytes, of which only those up to fifteen name a key.
-/

namespace Chip8

/-- Which keys are down. -/
structure Keypad where
  down : Vector Bool 16
  deriving DecidableEq

namespace Keypad

/-- The keypad with every key up. -/
def released : Keypad := ⟨Vector.replicate 16 false⟩

/-- Whether a key is down. -/
def holds (k : Keypad) (key : Nibble) : Bool := k.down.get key

/-- Move a key. -/
def move (k : Keypad) (key : Nibble) (isDown : Bool) : Keypad :=
  ⟨k.down.set key isDown key.val_lt⟩

/-- Whether the key that a byte names is down. -/
def isPressed (k : Keypad) (key : UInt8) : Except Fault Bool :=
  match Nibble.ofByte? key with
  | some n => .ok (k.holds n)
  | none => .error (.invalidKey key)

/-- Move the key that a byte names. -/
def setPressed (k : Keypad) (key : UInt8) (isDown : Bool) : Except Fault Keypad :=
  match Nibble.ofByte? key with
  | some n => .ok (k.move n isDown)
  | none => .error (.invalidKey key)

/-- The keys that are down, lowest first. -/
def pressed (k : Keypad) : List Nibble := (List.finRange 16).filter k.holds

/-- The lowest key that is down. -/
def first? (k : Keypad) : Option Nibble := (List.finRange 16).find? k.holds

@[simp] theorem holds_released (a : Nibble) : released.holds a = false := by
  simp [released, holds, Nibble.get_eq_getElem]

/-- Moving a key moves that key and no other. -/
@[simp] theorem holds_move (k : Keypad) (a b : Nibble) (isDown : Bool) :
    (k.move a isDown).holds b = if a = b then isDown else k.holds b := by
  simp [move, holds, Nibble.get_eq_getElem, Vector.getElem_set, Fin.ext_iff]

theorem first?_eq_none_iff (k : Keypad) : k.first? = none ↔ ∀ key, k.holds key = false := by
  simp [first?, List.find?_eq_none]

/-- The lowest key that is down is down, and none below it is. -/
theorem first?_eq_some_iff (k : Keypad) (key : Nibble) :
    k.first? = some key ↔ k.holds key = true ∧ ∀ lower < key, k.holds lower = false := by
  simp only [first?, List.find?_eq_some_iff_getElem, List.length_finRange, List.getElem_finRange]
  constructor
  · rintro ⟨down, place, inside, rfl, before⟩
    refine ⟨down, ?_⟩
    intro lower below
    simpa using before lower.val below
  · rintro ⟨down, above⟩
    refine ⟨down, key.val, key.isLt, rfl, ?_⟩
    intro place below
    have inside : place < 16 := by omega
    simpa using above ⟨place, inside⟩ below

end Keypad

end Chip8
