/-!
# Tables of states

What an automaton takes up while it is built: a number of states, each of the
same size, and beside them the parts that some states have in lists. `Building`
ends without a result as soon as the limit is passed.
-/

namespace Chip8.Pattern.Automaton

/-- What a table of states holds. -/
structure Table where
  states : Nat
  /-- Bytes in the lists of states. -/
  listed : Nat

namespace Table

/-- Nothing yet. -/
def bare : Table := ⟨0, 0⟩

/-- What one state takes up. -/
def stateSize : Nat := 32

/-- What an arrow without a label takes up in the list of a fork. -/
def arrowSize : Nat := 4

/-- What an arrow for a range of bytes takes up in the list of a branch. -/
def branchSize : Nat := 8

/-- What a table takes up, in bytes. -/
def size (t : Table) : Nat := stateSize * t.states + t.listed

end Table

/-- How large a table may become. -/
def sizeLimit : Nat := 10485760

/-- A step of building a table. -/
abbrev Building := StateT Table Option

namespace Building

/-- Go on only below the limit. -/
def grow (states listed : Nat) : Building Unit := do
  let t ← get
  let larger : Table := ⟨t.states + states, t.listed + listed⟩
  if larger.size ≤ sizeLimit then set larger else failure

/-- Add a state with a list, and tell its number. -/
def add (listed : Nat) : Building Nat := do
  let t ← get
  grow 1 listed
  return t.states

/-- Add an arrow to the list of a fork. -/
def arrow : Building Unit := grow 0 Table.arrowSize

end Building

end Chip8.Pattern.Automaton
