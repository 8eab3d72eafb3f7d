/-!
# The built-in font

One glyph per hexadecimal digit, five rows tall and four pixels wide, kept at
the bottom of memory so that programs can draw numbers.
-/

namespace Chip8.Font

/-- Where in memory the font begins. -/
def start : Nat := 0

/-- The rows of one glyph, and so the distance from one glyph to the next. -/
def height : Nat := 5

/-- The glyphs of the digits, top row first, leftmost pixel in the highest bit. -/
def glyphs : Vector (Vector UInt8 height) 16 :=
  #v[#v[0xF0, 0x90, 0x90, 0x90, 0xF0],
    #v[0x20, 0x60, 0x20, 0x20, 0x70],
    #v[0xF0, 0x10, 0xF0, 0x80, 0xF0],
    #v[0xF0, 0x10, 0xF0, 0x10, 0xF0],
    #v[0x90, 0x90, 0xF0, 0x10, 0x10],
    #v[0xF0, 0x80, 0xF0, 0x10, 0xF0],
    #v[0xF0, 0x80, 0xF0, 0x90, 0xF0],
    #v[0xF0, 0x10, 0x20, 0x40, 0x40],
    #v[0xF0, 0x90, 0xF0, 0x90, 0xF0],
    #v[0xF0, 0x90, 0xF0, 0x10, 0xF0],
    #v[0xF0, 0x90, 0xF0, 0x90, 0x90],
    #v[0xE0, 0x90, 0xE0, 0x90, 0xE0],
    #v[0xF0, 0x80, 0x80, 0x80, 0xF0],
    #v[0xE0, 0x90, 0x90, 0x90, 0xE0],
    #v[0xF0, 0x80, 0xF0, 0x80, 0xF0],
    #v[0xF0, 0x80, 0xF0, 0x80, 0x80]]

/-- All glyphs in a row, as they lie in memory. -/
def bytes : List UInt8 := glyphs.toList.flatMap (·.toList)

/-- Where the glyph of a byte's low digit begins. -/
def address (digit : UInt8) : UInt16 :=
  UInt16.ofNat (start + height * (digit.toNat % 16))

end Chip8.Font
