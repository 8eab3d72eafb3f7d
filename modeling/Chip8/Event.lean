import Chip8.Fault
import Chip8.Instruction.Assembly

/-!
# Events

What the machine and its host report while they work, as data. Each event has
a level, a source and a text.
-/

namespace Chip8

open Numeral

/-- How much an event matters. -/
inductive Level where
  | error | warn | info | debug | trace
  deriving DecidableEq

namespace Level

/-- Levels in order, the most severe first. -/
def rank : Level → Nat
  | error => 1
  | warn => 2
  | info => 3
  | debug => 4
  | trace => 5

/-- How a level is written in the log. -/
def name : Level → String
  | error => "ERROR"
  | warn => "WARN"
  | info => "INFO"
  | debug => "DEBUG"
  | trace => "TRACE"

/-- All levels. -/
def all : List Level := [error, warn, info, debug, trace]

/-- The level with a name, in capital or small letters of ASCII. -/
def ofName? (name : String) : Option Level :=
  all.find? fun l => l.name.toList = name.toList.map Char.toUpper

end Level

/-- Something worth reporting. -/
inductive Event where
  /-- An instruction is about to be carried out. -/
  | executing (pc : UInt16) (i : Instruction Nibble)
  /-- A routine of the host processor was asked for. -/
  | ignoredRoutine (target : UInt16)
  /-- A word is no instruction. -/
  | unknownOpcode (word : Word)
  /-- A program was put into memory. -/
  | loaded (size : Nat)
  /-- The machine was reset. -/
  | wasReset
  /-- The host could not load a program. -/
  | loadFailed (fault : Fault)
  /-- The host stops for good. -/
  | halting (pc : UInt16) (fault : Fault)
  /-- The host goes on after a fault. -/
  | ignoring (pc : UInt16) (fault : Fault)
  /-- A program file is about to be read. -/
  | opening (file : String)
  /-- A session is over. -/
  | finished (steps frames tones : Nat)
  deriving DecidableEq

namespace Event

/-- How much an event matters. -/
def level : Event → Level
  | executing .. => .trace
  | ignoredRoutine _ => .debug
  | unknownOpcode _ => .error
  | loaded _ => .debug
  | wasReset => .debug
  | loadFailed _ => .error
  | halting .. => .error
  | ignoring .. => .warn
  | opening _ => .info
  | finished .. => .info

/-- Which part reports it. -/
def source : Event → String
  | executing .. | ignoredRoutine _ | loaded _ | wasReset => "chip_8::emulator::emulator"
  | unknownOpcode _ => "chip_8::emulator::instruction"
  | loadFailed _ | halting .. | ignoring .. => "chip_8::emulator::driver"
  | opening _ | finished .. => "no_frontend"

/-- The double quote. -/
def quoteSign : Char := Char.ofNat 0x22

/-- The sign that announces an escaped one. -/
def escapeSign : Char := Char.ofNat 0x5C

/-- A character inside double quotes: the quote and the escape sign are
escaped, and so are the signs that end a line or move across it. -/
def quotedSigns (c : Char) : List Char :=
  if c = quoteSign ∨ c = escapeSign then [escapeSign, c]
  else if c = '\n' then [escapeSign, 'n']
  else if c = '\r' then [escapeSign, 'r']
  else if c = '\t' then [escapeSign, 't']
  else [c]

/-- A text inside double quotes. -/
def quoted (s : String) : String :=
  String.ofList (quoteSign :: s.toList.flatMap quotedSigns ++ [quoteSign])

/-- The sentence about an event. -/
def text : Event → String
  | executing pc i => "0x" ++ hex 3 pc.toNat ++ ": " ++ i.widen.text
  | ignoredRoutine target => "Ignoring machine code routine at 0x" ++ hex 3 target.toNat
  | unknownOpcode word => "Unknown opcode 0x" ++ hex 4 word.toNat
  | loaded size => "Loaded " ++ decimal size ++ " byte program"
  | wasReset => "Reset"
  | loadFailed fault => "Could not load program: " ++ fault.message
  | halting pc fault => "Halting at 0x" ++ hex 3 pc.toNat ++ ": " ++ fault.message
  | ignoring pc fault => "Ignoring error at 0x" ++ hex 3 pc.toNat ++ ": " ++ fault.message
  | opening file => "Executing " ++ quoted file
  | finished steps frames tones =>
    "Ran " ++ decimal steps ++ " steps, presented " ++ decimal frames ++ " frames and "
      ++ decimal tones ++ " tones"

end Event

end Chip8
