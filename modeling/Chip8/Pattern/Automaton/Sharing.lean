import Chip8.CharSet
import Chip8.Pattern.Automaton.Table
import Chip8.Text.Utf8
import Std.Data.HashMap

/-!
# Sets as automata over bytes

An automaton reads characters as bytes, so a set of them becomes a small
automaton of its own. States that would go on alike are shared as far as a
memory of limited size tells: it has a number of slots, a key is kept in the
slot that its hash says, and a later key takes the slot of an earlier one.
-/

namespace Chip8.Pattern.Automaton

open Text

/-- The hash of some numbers, one after another. -/
def hash (numbers : List Nat) : UInt64 :=
  numbers.foldl (fun h n => (h ^^^ UInt64.ofNat n) * 1099511628211) 14695981039346656037

/-- A memory: in every slot that is taken a key and a state. -/
abbrev Memory := Std.HashMap Nat (List Nat × Nat)

namespace Memory

/-- The state that a memory of some slots has for a key. -/
def known? (slots : Nat) (key : List Nat) (memory : Memory) : Option Nat :=
  match memory[(hash key).toNat % slots]? with
  | some (other, state) => if other = key then some state else none
  | none => none

/-- Keep a state for a key. -/
def keep (slots : Nat) (key : List Nat) (state : Nat) (memory : Memory) : Memory :=
  memory.insert ((hash key).toNat % slots) (key, state)

end Memory

/-- A step of building with a memory. -/
abbrev Sharing := StateT Memory Building

namespace Sharing

/-- The state for a key, added with a list if the memory has none. -/
def state (slots : Nat) (key : List Nat) (listed : Nat) : Sharing Nat := do
  match (← get).known? slots key with
  | some n => return n
  | none =>
    let n ← StateT.lift (Building.add listed)
    modify (Memory.keep slots key n)
    return n

/-- Sequences cut where their first ranges change. -/
def families (sequences : List (List Range)) : List (List (List Range)) :=
  sequences.splitBy fun a b => a.head? = b.head?

/-- The slots for branches. -/
def branchSlots : Nat := 10000

/-- A branch for sequences of ranges of bytes, the last of which lead to a
state. -/
def branch (target : Nat) : Nat → List (List Range) → Sharing Nat
  | 0, _ => return target
  | depth + 1, sequences => do
    let arrows ← (families sequences).mapM fun family => do
      match family with
      | (r :: []) :: _ => return [r.low, r.high, target]
      | (r :: _) :: _ => return [r.low, r.high, ← branch target depth (family.map List.tail)]
      | _ => return []
    state branchSlots arrows.flatten (Table.branchSize * arrows.length)

/-- The slots for single ranges. -/
def rangeSlots : Nat := 1000

/-- States for the ranges of a sequence, the first of which leads to a state;
where it begins that was read from its last range on. -/
def chain (target : Nat) (sequence : List Range) : Sharing Nat :=
  sequence.foldlM (fun next r => state rangeSlots [next, r.low, r.high] 0) target

end Sharing

/-- The sequences of bytes that the characters of a set are. -/
def byteSequences (s : CharSet) : List (List Range) := s.ranges.flatMap Utf8.sequences

/-- The automaton of a set of ASCII characters: one branch. -/
def buildAscii (s : CharSet) : Building Unit := do
  let _ ← Building.add 0
  let _ ← Building.add (Table.branchSize * s.ranges.length)

/-- The automaton of a set that reads bytes in order. -/
def buildForward (s : CharSet) : Building Unit := do
  let target ← Building.add 0
  let _ ← (Sharing.branch target 4 (byteSequences s)).run {}

/-- The automaton of a set that reads bytes from the last one on: a fork into
all sequences. -/
def buildBackward (s : CharSet) : Building Unit := do
  let _ ← Building.add 0
  let target ← Building.add 0
  let _ ← ((byteSequences s).forM fun sequence => do
    let _ ← Sharing.chain target sequence
    StateT.lift Building.arrow).run {}

end Chip8.Pattern.Automaton
