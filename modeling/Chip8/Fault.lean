import Chip8.Numeral

/-!
# Faults

What can go wrong, as data: each constructor is a cause and carries what the
report about it needs. A **fatal** fault leaves the machine unable to go on;
the others concern a single request and can be ignored.
-/

namespace Chip8

open Numeral

/-- Why an operation was refused. -/
inductive Fault where
  /-- Memory was addressed past its end. -/
  | outOfBounds (address : Nat)
  /-- A program is larger than the space for programs. -/
  | programTooLarge (size available : Nat)
  /-- A word is no instruction. -/
  | unknownOpcode (word : UInt16)
  /-- A return with no call to return from. -/
  | stackUnderflow
  /-- A call with no room for its return address. -/
  | stackOverflow
  /-- A number that is no key. -/
  | invalidKey (key : UInt8)
  deriving DecidableEq

namespace Fault

/-- Whether the machine cannot go on after the fault. Only a refused memory
access and a number that is no key leave it in working order. -/
def isFatal : Fault → Bool
  | outOfBounds _ => false
  | programTooLarge _ _ => true
  | unknownOpcode _ => true
  | stackUnderflow => true
  | stackOverflow => true
  | invalidKey _ => false

/-- The sentence about a fault for its user. -/
def message : Fault → String
  | outOfBounds address => "memory access out of bounds at 0x" ++ hex 4 address
  | programTooLarge size available =>
    "program is " ++ decimal size ++ " bytes, but only " ++ decimal available
      ++ " bytes are available"
  | unknownOpcode word => "unknown opcode 0x" ++ hex 4 word.toNat
  | stackUnderflow => "return with an empty call stack"
  | stackOverflow => "call with a full call stack"
  | invalidKey key =>
    "invalid key 0x" ++ hex 1 key.toNat ++ ", keys are in the range 0x0..=0xF"

/-- The fault as a record: its name and its fields, numbers in decimal. -/
def record : Fault → String
  | outOfBounds address => "OutOfBounds \x7b address: " ++ decimal address ++ " \x7d"
  | programTooLarge size available =>
    "ProgramTooLarge \x7b size: " ++ decimal size ++ ", available: " ++ decimal available
      ++ " \x7d"
  | unknownOpcode word => "UnknownOpcode(" ++ decimal word.toNat ++ ")"
  | stackUnderflow => "StackUnderflow"
  | stackOverflow => "StackOverflow"
  | invalidKey key => "InvalidKey(" ++ decimal key.toNat ++ ")"

end Fault

end Chip8
