import Chip8.Fault
import Chip8.Font

/-!
# Memory

4096 bytes, the font at the bottom and programs from `0x200` up. There are two
ways in. An `Address` is a number below 4096, and access through one always
succeeds; the machine wraps the addresses that it computes into this range. A
16-bit number from outside is checked: `read`, `write`, `writeBlock` and
`install` refuse what does not fit, and a refused write changes nothing.
-/

namespace Chip8

/-- A place in memory. -/
abbrev Address := Fin 4096

/-- The place a number stands for when addresses wrap around at the end of
memory. -/
def Address.wrap (n : Nat) : Address := Fin.ofNat 4096 n

/-- The contents of memory. -/
structure Memory where
  cells : Vector UInt8 4096
  deriving DecidableEq

namespace Memory

/-- Where programs are loaded. -/
def programStart : UInt16 := 0x200

/-- The space from there to the end of memory. -/
def programSpace : Nat := 4096 - programStart.toNat

/-- Memory with zero everywhere. -/
def blank : Memory := ⟨Vector.replicate 4096 0⟩

/-- The byte at a place. -/
def byteAt (m : Memory) (a : Address) : UInt8 := m.cells[a]

/-- Put a byte at a place. -/
def put (m : Memory) (a : Address) (b : UInt8) : Memory := ⟨m.cells.set a b⟩

/-- Put bytes one after another, going on at the beginning once the end of
memory is reached. -/
def place (m : Memory) (start : Nat) : List UInt8 → Memory
  | [] => m
  | b :: rest => (m.put (.wrap start) b).place (start + 1) rest

/-- Some bytes one after another, wrapping the same way as `place`. -/
def slice (m : Memory) (start count : Nat) : List UInt8 :=
  (List.range count).map fun k => m.byteAt (.wrap (start + k))

/-- The byte at a 16-bit address. -/
def read (m : Memory) (address : UInt16) : Except Fault UInt8 :=
  if h : address.toNat < 4096 then .ok (m.byteAt ⟨address.toNat, h⟩)
  else .error (.outOfBounds address.toNat)

/-- Store a byte at a 16-bit address. -/
def write (m : Memory) (address : UInt16) (b : UInt8) : Except Fault Memory :=
  if h : address.toNat < 4096 then .ok (m.put ⟨address.toNat, h⟩ b)
  else .error (.outOfBounds address.toNat)

/-- Store bytes from a 16-bit address on, all of them or none. The address of
a refusal is the first one past the end. -/
def writeBlock (m : Memory) (start : UInt16) (bytes : List UInt8) : Except Fault Memory :=
  if start.toNat + bytes.length ≤ 4096 then .ok (m.place start.toNat bytes)
  else .error (.outOfBounds (max start.toNat 4096))

/-- Store a program, if there is room for it. -/
def install (m : Memory) (program : List UInt8) : Except Fault Memory :=
  if program.length ≤ programSpace then .ok (m.place programStart.toNat program)
  else .error (.programTooLarge program.length programSpace)

/-- Put the font where programs expect it. -/
def withFont (m : Memory) : Memory := m.place Font.start Font.bytes

/-- Memory with the font and nothing else. -/
def fresh : Memory := blank.withFont

/-- A byte put at one place is there, and nothing else has changed. -/
@[simp] theorem byteAt_put (m : Memory) (a b : Address) (v : UInt8) :
    (m.put a v).byteAt b = if a = b then v else m.byteAt b := by
  simp [put, byteAt, Vector.getElem_set, Fin.ext_iff]

theorem place_append (m : Memory) (start : Nat) (bytes more : List UInt8) :
    m.place start (bytes ++ more) = (m.place start bytes).place (start + bytes.length) more := by
  induction bytes generalizing m start with
  | nil => simp [place]
  | cons b rest ih => simp [place, ih, Nat.add_comm, Nat.add_left_comm]

@[simp] theorem length_slice (m : Memory) (start count : Nat) :
    (m.slice start count).length = count := by
  simp [slice]

end Memory

end Chip8
