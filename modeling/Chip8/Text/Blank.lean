/-!
# Blanks

The characters that count as blank wherever this library reads text that
people wrote: those with the property `White_Space`, 25 in all.
-/

namespace Chip8.Text

/-- The code points of the blanks. -/
def blanks : List Nat :=
  [0x9, 0xA, 0xB, 0xC, 0xD, 0x20, 0x85, 0xA0, 0x1680, 0x2000, 0x2001, 0x2002, 0x2003, 0x2004,
    0x2005, 0x2006, 0x2007, 0x2008, 0x2009, 0x200A, 0x2028, 0x2029, 0x202F, 0x205F, 0x3000]

/-- Whether a character is blank. -/
def isBlank (c : Char) : Bool := blanks.contains c.toNat

/-- Signs without the blanks around them. -/
def trim (signs : List Char) : List Char :=
  ((signs.dropWhile isBlank).reverse.dropWhile isBlank).reverse

end Chip8.Text
