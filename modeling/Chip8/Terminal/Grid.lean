import Chip8.Terminal.Command

/-!
# What a terminal shows

The effect of commands on a grid of characters. Printing puts one character
into each column from the cursor on and takes the cursor along; clearing
leaves blanks. The cursor stays within a `Window`: it does not move beyond the
last column and the last line, and printing takes it from the last column to
wherever the terminal has it go.
-/

namespace Chip8.Terminal

/-- The size of a grid, and what becomes of the cursor at the end of a line. -/
structure Window where
  columns : Nat
  lines : Nat
  /-- The column and the line of the cursor after a character in the last
  column of a line. -/
  turn : Nat → Nat × Nat

/-- The characters shown, and where the cursor is. -/
structure Grid where
  /-- The character in a column of a line. -/
  sign : Nat → Nat → Char
  column : Nat
  line : Nat

namespace Grid

/-- Blanks everywhere and the cursor at the top left. -/
def blank : Grid := ⟨fun _ _ => ' ', 0, 0⟩

/-- Print one character. -/
def put (w : Window) (g : Grid) (c : Char) : Grid where
  sign column line := if column = g.column ∧ line = g.line then c else g.sign column line
  column := if g.column + 1 < w.columns then g.column + 1 else (w.turn g.line).1
  line := if g.column + 1 < w.columns then g.line else (w.turn g.line).2

/-- Carry out a command. -/
def obey (w : Window) (g : Grid) : Command → Grid
  | .clearScreen => { g with sign := fun _ _ => ' ' }
  | .moveTo column line =>
    { g with column := min column (w.columns - 1), line := min line (w.lines - 1) }
  | .print signs => signs.foldl (put w) g
  | .enterAlternateScreen | .leaveAlternateScreen | .hideCursor | .showCursor | .ringBell => g

/-- Carry out commands in turn. -/
def obeyAll (w : Window) (g : Grid) (commands : List Command) : Grid :=
  commands.foldl (obey w) g

end Grid

end Chip8.Terminal
