import Chip8.Screen

/-!
# The display

The screen together with a note that it has been drawn on since it was last
shown. The note is about drawing and not about change: a sprite without a lit
bit sets it too.
-/

namespace Chip8

/-- A screen, and whether it was drawn on since it was last shown. -/
structure Display where
  screen : Screen
  dirty : Bool
  deriving DecidableEq

namespace Display

/-- A blank display that nobody has drawn on. -/
def initial : Display := ⟨.blank, false⟩

/-- A display just wiped. -/
def wiped : Display := ⟨.blank, true⟩

/-- Draw a sprite with its top left corner at two coordinates. -/
def draw (d : Display) (x y : Nat) (sprite : Sprite) : Display :=
  ⟨d.screen.draw (sprite.marks x y), true⟩

/-- Whether drawing the sprite would turn a lit pixel off. -/
def collides (d : Display) (x y : Nat) (sprite : Sprite) : Bool :=
  d.screen.erases (sprite.marks x y)

/-- The display after it has been shown. -/
def shown (d : Display) : Display := { d with dirty := false }

/-- A display that nobody has drawn on is as good as shown. -/
theorem shown_of_clean {d : Display} (clean : d.dirty = false) : d.shown = d := by
  obtain ⟨screen, dirty⟩ := d
  cases clean
  rfl

end Display

end Chip8
