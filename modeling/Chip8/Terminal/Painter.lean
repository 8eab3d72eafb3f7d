import Chip8.Device
import Chip8.Terminal.Command

/-!
# Painting frames

The picture in a terminal: a box around the screen, each pixel two columns
wide. A `Painter` knows the frame it painted last and paints only the pixels
that differ, one move and one print for each, row by row.
-/

namespace Chip8.Terminal

/-- The rightmost column of the box. -/
def boxRight : Nat := 2 * 64 + 1

/-- The lowest line of the box. -/
def boxBottom : Nat := 32 + 1

/-- The piece of the box at a column and a line, if the box passes there. -/
def boxSign? (column line : Nat) : Option Char :=
  if line = 0 then
    if column = 0 then some '┏' else if column = boxRight then some '┓' else some '━'
  else if line = boxBottom then
    if column = 0 then some '┗' else if column = boxRight then some '┛' else some '━'
  else if column = 0 ∨ column = boxRight then some '┃'
  else none

/-- Print a piece of the box, if it passes there. -/
def paintBoxAt (line column : Nat) : List Command :=
  match boxSign? column line with
  | some sign => [.moveTo column line, .print [sign]]
  | none => []

/-- Print the box. -/
def paintBox : List Command :=
  (List.range (boxBottom + 1)).flatMap fun line =>
    (List.range (boxRight + 1)).flatMap (paintBoxAt line)

/-- Make room and print the box. -/
def opening : List Command := [.enterAlternateScreen, .hideCursor, .clearScreen] ++ paintBox

/-- Leave the terminal as it was. -/
def closing : List Command := [.leaveAlternateScreen, .showCursor]

/-- How a pixel looks. -/
def pixelSigns (on : Bool) : List Char := if on then ['█', '█'] else [' ', ' ']

/-- Print a pixel. -/
def paintPixel (p : Position) (on : Bool) : List Command :=
  [.moveTo (2 * p.x.val + 1) (p.y.val + 1), .print (pixelSigns on)]

/-- All positions, row by row from the top and from the left. -/
def positions : List Position :=
  (List.finRange 32).flatMap fun y => (List.finRange 64).map fun x => ⟨x, y⟩

/-- Print the pixels in which a frame differs from an earlier one. -/
def paintChanges (before after : Screen) : List Command :=
  positions.flatMap fun p =>
    if before.pixel p = after.pixel p then [] else paintPixel p (after.pixel p)

/-- The frame painted last, and everything said to the terminal. -/
structure Painter where
  frame : Screen
  sent : Array Command

namespace Painter

/-- A painter in front of an empty box. -/
def start : Painter := ⟨.blank, opening.toArray⟩

instance : OutputDevice Painter where
  present p screen := ⟨screen, p.sent ++ paintChanges p.frame screen⟩
  beep p := { p with sent := p.sent.push .ringBell }

end Painter

end Chip8.Terminal
