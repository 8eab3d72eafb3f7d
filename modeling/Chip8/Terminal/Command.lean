import Chip8.Numeral

/-!
# Terminal commands

The few things that are said to a terminal, as data, and their escape
sequences.
-/

namespace Chip8.Terminal

open Numeral

/-- Something said to a terminal. Columns and lines count from zero at the top
left. -/
inductive Command where
  | enterAlternateScreen
  | leaveAlternateScreen
  | hideCursor
  | showCursor
  | clearScreen
  | moveTo (column line : Nat)
  | print (signs : List Char)
  | ringBell
  deriving DecidableEq

namespace Command

/-- What escape sequences begin with. -/
def escape : List Char := [Char.ofNat 0x1B, '[']

/-- The bell. -/
def bell : Char := Char.ofNat 0x07

/-- The characters sent for a command. -/
def signs : Command → List Char
  | enterAlternateScreen => escape ++ ['?', '1', '0', '4', '9', 'h']
  | leaveAlternateScreen => escape ++ ['?', '1', '0', '4', '9', 'l']
  | hideCursor => escape ++ ['?', '2', '5', 'l']
  | showCursor => escape ++ ['?', '2', '5', 'h']
  | clearScreen => escape ++ ['2', 'J']
  | moveTo column line =>
    escape ++ decimalSigns (line + 1) ++ ';' :: decimalSigns (column + 1) ++ ['H']
  | print signs => signs
  | ringBell => [bell]

/-- The text sent for commands. -/
def text (commands : List Command) : String := String.ofList (commands.flatMap signs)

end Command

end Chip8.Terminal
