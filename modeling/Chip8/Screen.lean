/-!
# The screen

64 by 32 pixels, each lit or not. A sprite is a list of bytes, one for each
row, the highest bit leftmost; `Sprite.marks` lists the pixels it covers, with
both coordinates wrapped around the screen, and drawing toggles these one
after another. So what drawing does to the picture and which pixels it turns
off are two readings of one list.
-/

namespace Chip8

/-- A pixel's place: column and row. -/
structure Position where
  x : Fin 64
  y : Fin 32
  deriving DecidableEq

/-- The place two coordinates stand for when the screen wraps around. -/
def Position.wrap (x y : Nat) : Position := ⟨Fin.ofNat 64 x, Fin.ofNat 32 y⟩

/-- Rows of eight pixels, one byte each. -/
abbrev Sprite := List UInt8

namespace Sprite

/-- Whether a row of a sprite covers a column, counted from the left. -/
def covers (row : UInt8) (column : Nat) : Bool := row.toNat.testBit (7 - column)

/-- The pixels of one row, from the left. -/
def rowMarks (x y : Nat) (row : UInt8) : List Position :=
  ((List.range 8).filter (covers row)).map fun column => .wrap (x + column) y

/-- The pixels of a sprite with its top left corner at two coordinates, row by
row. A pixel is listed once for each bit that lands on it. -/
def marks (x y : Nat) : Sprite → List Position
  | [] => []
  | row :: rest => rowMarks x y row ++ marks x (y + 1) rest

end Sprite

/-- A picture: rows of pixels from the top, pixels from the left. -/
structure Screen where
  rows : Vector (Vector Bool 64) 32
  deriving DecidableEq

namespace Screen

/-- The screen with no pixel lit. -/
def blank : Screen := ⟨Vector.replicate 32 (Vector.replicate 64 false)⟩

/-- Whether a pixel is lit. -/
def pixel (s : Screen) (p : Position) : Bool := s.rows[p.y][p.x]

/-- Whether the pixel at two coordinates is lit. None is outside the screen. -/
def lit (s : Screen) (x y : Nat) : Bool :=
  if h : x < 64 ∧ y < 32 then s.pixel ⟨⟨x, h.1⟩, ⟨y, h.2⟩⟩ else false

/-- Turn one pixel on or off. -/
def setPixel (s : Screen) (p : Position) (on : Bool) : Screen :=
  ⟨s.rows.set p.y (s.rows[p.y].set p.x on)⟩

/-- Change one pixel to its opposite. -/
def toggle (s : Screen) (p : Position) : Screen := s.setPixel p (!s.pixel p)

/-- Toggle pixels in turn. -/
def draw (s : Screen) (marks : List Position) : Screen := marks.foldl toggle s

/-- Whether toggling pixels in turn ever turns a lit one off. -/
def erases (s : Screen) : List Position → Bool
  | [] => false
  | p :: rest => s.pixel p || (s.toggle p).erases rest

/-- The sign of a pixel in text. -/
def sign (on : Bool) : Char := if on then '#' else ' '

/-- One row as a line of text. -/
def lineSigns (row : Vector Bool 64) : List Char := row.toList.map sign ++ ['\n']

/-- The picture as lines of text. -/
def signs (s : Screen) : List Char := s.rows.toList.flatMap lineSigns

/-- The text of `signs`. -/
def text (s : Screen) : String := String.ofList s.signs

/-! ### Pictures by their pixels -/

theorem pixel_blank (p : Position) : blank.pixel p = false := by
  simp [blank, pixel]

theorem pixel_setPixel (s : Screen) (p q : Position) (on : Bool) :
    (s.setPixel p on).pixel q = if p = q then on else s.pixel q := by
  obtain ⟨px, py⟩ := p
  obtain ⟨qx, qy⟩ := q
  simp only [setPixel, pixel, Position.mk.injEq, Fin.getElem_fin, Vector.getElem_set, Fin.ext_iff]
  split <;> simp_all [Vector.getElem_set]

theorem pixel_toggle (s : Screen) (p q : Position) :
    (s.toggle p).pixel q = (s.pixel q ^^ decide (p = q)) := by
  rw [toggle, pixel_setPixel]
  split
  · next h => subst h; simp
  · next h => simp [h]

theorem draw_append (s : Screen) (marks more : List Position) :
    s.draw (marks ++ more) = (s.draw marks).draw more :=
  List.foldl_append

/-- A picture is its pixels. -/
theorem ext_pixel {s t : Screen} (h : ∀ p, s.pixel p = t.pixel p) : s = t := by
  obtain ⟨rows⟩ := s
  obtain ⟨rows'⟩ := t
  congr 1
  ext y hy x hx
  have := h ⟨⟨x, hx⟩, ⟨y, hy⟩⟩
  simpa [pixel] using this

end Screen

end Chip8
