import Chip8.Display
import Mathlib.Algebra.BigOperators.Group.Finset.Piecewise
import Mathlib.Algebra.BigOperators.Group.Finset.Sigma

/-!
# Drawing by toggling

To draw is to toggle pixels one after another, so a pixel that is listed twice
is what it was, whatever else is listed in between. The picture afterwards
depends on the parity of how often each pixel is listed and on nothing else
(`Screen.pixel_draw`), and a lit pixel goes out on the way if a listed one was
lit before or some pixel is listed twice (`Screen.erases_iff`). A sprite lists a
pixel once for each of its set bits that lands there (`Sprite.count_marks`).

The order of drawings is therefore of no account, and two equal ones undo each
other wherever they stand (`draw_eq_of_parity`). A sprite of at most 32 rows
does not meet itself: what it does to the picture can be seen from the two
pictures (`Display.collides_iff_of_short`).
-/

namespace Chip8

namespace Screen

variable {marks more : List Position}

/-- Toggling pixels in turn changes those that are listed an odd number of
times. -/
theorem pixel_draw (s : Screen) (marks : List Position) (p : Position) :
    (s.draw marks).pixel p = (s.pixel p ^^ decide (marks.count p % 2 = 1)) := by
  induction marks generalizing s with
  | nil => simp [draw]
  | cons q rest ih =>
      have first : s.draw (q :: rest) = (s.toggle q).draw rest := rfl
      rw [first, ih, pixel_toggle]
      by_cases here : q = p
      · -- one more time flips the pixel and the parity alike
        subst here
        have parity : (rest.count q + 1) % 2 = 1 ↔ ¬ rest.count q % 2 = 1 := by omega
        rw [List.count_cons_self, decide_eq_decide.2 parity, decide_not]
        simp [Bool.xor_comm]
      · rw [List.count_cons_of_ne here, decide_eq_false here, Bool.xor_false]

/-- A lit pixel goes out on the way if one that is listed was lit, or one is
listed twice: of two times that a pixel is toggled, one finds it lit. -/
theorem erases_iff (s : Screen) (marks : List Position) :
    s.erases marks = true ↔
      ∃ p, (1 ≤ marks.count p ∧ s.pixel p = true) ∨ 2 ≤ marks.count p := by
  induction marks generalizing s with
  | nil => simp [erases]
  | cons q rest ih =>
      have first : s.erases (q :: rest) = (s.pixel q || (s.toggle q).erases rest) := rfl
      rw [first, Bool.or_eq_true, ih]
      constructor
      · rintro (lit | ⟨p, marked⟩)
        · exact ⟨q, .inl ⟨by simp, lit⟩⟩
        · refine ⟨p, ?_⟩
          rw [pixel_toggle] at marked
          by_cases here : q = p
          · subst here
            rw [List.count_cons_self]
            omega
          · rwa [decide_eq_false here, Bool.xor_false, ← List.count_cons_of_ne here] at marked
      · rintro ⟨p, marked⟩
        by_cases here : q = p
        · subst here
          cases lit : s.pixel q with
          | true => exact .inl rfl
          | false =>
              -- the pixel comes twice, and the first time lights it
              rw [List.count_cons_self, lit] at marked
              have again : 1 ≤ rest.count q := by
                rcases marked with ⟨_, dark⟩ | twice
                · cases dark
                · omega
              exact .inr ⟨q, .inl ⟨again, by simp [pixel_toggle, lit]⟩⟩
        · right
          refine ⟨p, ?_⟩
          rwa [pixel_toggle, decide_eq_false here, Bool.xor_false, ← List.count_cons_of_ne here]

/-- Pixels that are listed as often, up to twos, make the same picture. -/
theorem draw_eq_of_parity (s : Screen) (same : ∀ p, marks.count p % 2 = more.count p % 2) :
    s.draw marks = s.draw more := by
  apply ext_pixel
  intro p
  rw [pixel_draw, pixel_draw, same]

end Screen

theorem Position.wrap_eq_iff {x y : Nat} {p : Position} :
    wrap x y = p ↔ x % 64 = p.x.val ∧ y % 32 = p.y.val := by
  obtain ⟨⟨px, hx⟩, ⟨py, hy⟩⟩ := p
  simp [wrap, Fin.ext_iff, Fin.ofNat]

theorem countP_range_eq_sum (holds : Nat → Bool) (n : Nat) :
    (List.range n).countP holds = ∑ k ∈ Finset.range n, if holds k = true then 1 else 0 := by
  induction n with
  | zero => rfl
  | succ n ih =>
      rw [List.range_succ, List.countP_append, List.countP_singleton, ih, Finset.sum_range_succ]

namespace Sprite

variable {x y x' y' : Nat} {sprite : Sprite} {p : Position}

/-- How often a sprite with its top left corner at two coordinates hits a pixel:
the number of its set bits, the highest one of a row leftmost, whose row and
column bring them there around the screen. -/
def hits (x y : Nat) (sprite : Sprite) (p : Position) : Nat :=
  ((Finset.range sprite.length ×ˢ Finset.range 8).filter fun bit =>
    (sprite.getD bit.1 0).toNat.testBit (7 - bit.2) = true ∧
      (x + bit.2) % 64 = p.x.val ∧ (y + bit.1) % 32 = p.y.val).card

/-- How often one row hits a pixel. -/
def rowHits (x y : Nat) (row : UInt8) (p : Position) : Nat :=
  ∑ column ∈ Finset.range 8,
    if row.toNat.testBit (7 - column) = true ∧
      (x + column) % 64 = p.x.val ∧ y % 32 = p.y.val then 1 else 0

theorem hits_cons (x y : Nat) (row : UInt8) (rest : Sprite) (p : Position) :
    hits x y (row :: rest) p = rowHits x y row p + hits x (y + 1) rest p := by
  simp only [hits, Finset.card_filter, Finset.sum_product]
  -- the first row apart, and each other one as the row before it, one line further down
  rw [List.length_cons, Finset.sum_range_succ' _ rest.length, Nat.add_comm]
  simp only [rowHits, List.getD_cons_succ, List.getD_cons_zero, Nat.add_zero, Nat.add_assoc,
    Nat.add_comm 1]

theorem count_rowMarks (x y : Nat) (row : UInt8) (p : Position) :
    (rowMarks x y row).count p = rowHits x y row p := by
  rw [rowMarks, List.count_eq_countP, List.countP_map, List.countP_filter,
    countP_range_eq_sum]
  apply Finset.sum_congr rfl
  intro column _
  simp [covers, Position.wrap_eq_iff, and_comm]

theorem count_marks (x y : Nat) (sprite : Sprite) (p : Position) :
    (sprite.marks x y).count p = sprite.hits x y p := by
  induction sprite generalizing y with
  | nil => rfl
  | cons row rest ih => rw [marks, List.count_append, count_rowMarks, ih, hits_cons]

/-- Whole turns around the screen make no difference to where a sprite lands. -/
theorem marks_congr (across : x % 64 = x' % 64) (down : y % 32 = y' % 32) (sprite : Sprite) :
    sprite.marks x y = sprite.marks x' y' := by
  induction sprite generalizing y y' with
  | nil => rfl
  | cons row rest ih =>
      have next : (y + 1) % 32 = (y' + 1) % 32 := by omega
      have first : rowMarks x y row = rowMarks x' y' row := by
        apply List.map_congr_left
        intro column _
        rw [Position.wrap_eq_iff]
        show (x + column) % 64 = (x' + column) % 64 ∧ y % 32 = y' % 32
        omega
      rw [marks, marks, first, ih next]

/-! ## Sprites of at most 32 rows -/

theorem one_le_hits_iff :
    1 ≤ sprite.hits x y p ↔ ∃ row < sprite.length, ∃ column < 8,
      (sprite.getD row 0).toNat.testBit (7 - column) = true ∧
        (x + column) % 64 = p.x.val ∧ (y + row) % 32 = p.y.val := by
  rw [hits, Nat.one_le_iff_ne_zero, ← Nat.pos_iff_ne_zero, Finset.card_pos]
  constructor
  · rintro ⟨⟨row, column⟩, bit⟩
    simp only [Finset.mem_filter, Finset.mem_product, Finset.mem_range] at bit
    exact ⟨row, bit.1.1, column, bit.1.2, bit.2⟩
  · rintro ⟨row, down, column, across, bit⟩
    refine ⟨(row, column), ?_⟩
    simp only [Finset.mem_filter, Finset.mem_product, Finset.mem_range]
    exact ⟨⟨down, across⟩, bit⟩

/-- A bit that is set lands somewhere. -/
theorem exists_hit_iff : (∃ p, 1 ≤ sprite.hits x y p) ↔ ∃ row ∈ sprite, row ≠ 0 := by
  simp only [one_le_hits_iff]
  constructor
  · rintro ⟨p, row, inside, column, _, bit, _⟩
    refine ⟨sprite[row], List.getElem_mem inside, ?_⟩
    intro zero
    simp [inside, zero] at bit
  · rintro ⟨byte, among, nonzero⟩
    obtain ⟨row, inside, rfl⟩ := List.getElem_of_mem among
    have positive : sprite[row].toNat ≠ 0 := fun zero => nonzero (UInt8.toNat_inj.1 zero)
    obtain ⟨k, bit⟩ := Nat.exists_testBit_of_ne_zero positive
    have small : k < 8 := by
      by_contra large
      have bound : sprite[row].toNat < 2 ^ k :=
        Nat.lt_of_lt_of_le sprite[row].toNat_lt (Nat.pow_le_pow_right (by decide) (by omega))
      rw [Nat.testBit_lt_two_pow bound] at bit
      cases bit
    -- the lowest bit is rightmost
    refine ⟨.wrap (x + (7 - k)) (y + row), row, inside, 7 - k, by omega, ?_, rfl, rfl⟩
    have back : 7 - (7 - k) = k := by omega
    simpa [inside, back] using bit

/-- Eight columns and up to 32 rows do not reach around the screen to where they
began. -/
theorem hits_le_one (short : sprite.length ≤ 32) : sprite.hits x y p ≤ 1 := by
  rw [hits, Finset.card_le_one]
  rintro ⟨row, column⟩ one ⟨row', column'⟩ other
  simp only [Finset.mem_filter, Finset.mem_product, Finset.mem_range] at one other
  obtain ⟨⟨down, across⟩, _, atX, atY⟩ := one
  obtain ⟨⟨down', across'⟩, _, atX', atY'⟩ := other
  have columns : column = column' := by omega
  have rows : row = row' := by omega
  rw [columns, rows]

end Sprite

namespace Display

variable {x y : Nat} {sprite : Sprite}

theorem pixel_draw (d : Display) (x y : Nat) (sprite : Sprite) (p : Position) :
    (d.draw x y sprite).screen.pixel p =
      (d.screen.pixel p ^^ decide (sprite.hits x y p % 2 = 1)) := by
  rw [draw, Screen.pixel_draw, Sprite.count_marks]

theorem collides_iff (d : Display) (x y : Nat) (sprite : Sprite) :
    d.collides x y sprite = true ↔
      ∃ p, (1 ≤ sprite.hits x y p ∧ d.screen.pixel p = true) ∨ 2 ≤ sprite.hits x y p := by
  simp only [collides, Screen.erases_iff, Sprite.count_marks]

theorem draw_mod (d : Display) (x y : Nat) (sprite : Sprite) :
    d.draw (x % 64) (y % 32) sprite = d.draw x y sprite := by
  rw [draw, draw, Sprite.marks_congr (Nat.mod_mod x 64) (Nat.mod_mod y 32)]

theorem collides_mod (d : Display) (x y : Nat) (sprite : Sprite) :
    d.collides (x % 64) (y % 32) sprite = d.collides x y sprite := by
  rw [collides, collides, Sprite.marks_congr (Nat.mod_mod x 64) (Nat.mod_mod y 32)]

/-- A sprite that does not meet itself changes just the pixels it hits. -/
theorem pixel_draw_of_short (d : Display) (short : sprite.length ≤ 32) (p : Position) :
    (d.draw x y sprite).screen.pixel p =
      (d.screen.pixel p ^^ decide (1 ≤ sprite.hits x y p)) := by
  have once : sprite.hits x y p ≤ 1 := Sprite.hits_le_one short
  have parity : sprite.hits x y p % 2 = 1 ↔ 1 ≤ sprite.hits x y p := by omega
  rw [pixel_draw, decide_eq_decide.2 parity]

theorem pixel_draw_ne_iff_of_short (d : Display) (short : sprite.length ≤ 32) (p : Position) :
    (d.draw x y sprite).screen.pixel p ≠ d.screen.pixel p ↔ 1 ≤ sprite.hits x y p := by
  have changed (old bit : Bool) : (old ^^ bit) ≠ old ↔ bit = true := by
    cases old <;> cases bit <;> decide
  rw [pixel_draw_of_short d short, changed, decide_eq_true_iff]

/-- If a sprite does not meet itself, a lit pixel that goes out stays out. -/
theorem collides_iff_of_short (d : Display) (short : sprite.length ≤ 32) :
    d.collides x y sprite = true ↔
      ∃ p, d.screen.pixel p = true ∧ (d.draw x y sprite).screen.pixel p = false := by
  rw [collides_iff]
  constructor
  · rintro ⟨p, ⟨hit, lit⟩ | twice⟩
    · refine ⟨p, lit, ?_⟩
      rw [pixel_draw_of_short d short, lit, decide_eq_true hit]
      rfl
    · have once : sprite.hits x y p ≤ 1 := Sprite.hits_le_one short
      omega
  · rintro ⟨p, lit, out⟩
    rw [pixel_draw_of_short d short, lit] at out
    have hit : 1 ≤ sprite.hits x y p := by simpa using out
    exact ⟨p, .inl ⟨hit, lit⟩⟩

end Display

/-- **Drawing is exclusive or with the sprite wrapped around the screen.** After
a sprite of any length has been drawn at any two coordinates, a pixel has
changed if the sprite hits it an odd number of times. A lit pixel is reported to
have gone out just if the sprite hits one that was lit before, or hits some
pixel twice. The display bears the note that it was drawn on. Of the
coordinates only the remainders modulo the screen's size matter. -/
theorem drawing_toggles_what_is_hit (d : Display) (x y : Nat) (sprite : Sprite) :
    (∀ p, (d.draw x y sprite).screen.pixel p =
      (d.screen.pixel p ^^ decide (sprite.hits x y p % 2 = 1))) ∧
    (d.collides x y sprite = true ↔
      ∃ p, (1 ≤ sprite.hits x y p ∧ d.screen.pixel p = true) ∨ 2 ≤ sprite.hits x y p) ∧
    (d.draw x y sprite).dirty = true ∧
    d.draw (x % 64) (y % 32) sprite = d.draw x y sprite ∧
    d.collides (x % 64) (y % 32) sprite = d.collides x y sprite :=
  ⟨d.pixel_draw x y sprite, d.collides_iff x y sprite, rfl, d.draw_mod x y sprite,
    d.collides_mod x y sprite⟩

/-- A column one row longer than the screen is high comes back to its first
pixel. -/
example : Sprite.hits 63 0 (List.replicate 33 0x80) ⟨63, 0⟩ = 2 := by decide +kernel

/-! ## Many drawings -/

/-- A sprite and the coordinates to draw it at. -/
structure Placement where
  x : Nat
  y : Nat
  sprite : Sprite
  deriving DecidableEq

namespace Placement

/-- The pixels that a placement lists. -/
def marks (a : Placement) : List Position := a.sprite.marks a.x a.y

/-- Placements of the same sprite at coordinates that stand for the same place. -/
structure Coincides (a b : Placement) : Prop where
  across : a.x % 64 = b.x % 64
  down : a.y % 32 = b.y % 32
  sprite : a.sprite = b.sprite

theorem Coincides.marks {a b : Placement} (same : a.Coincides b) : a.marks = b.marks := by
  rw [Placement.marks, Placement.marks, same.sprite]
  exact Sprite.marks_congr same.across same.down b.sprite

end Placement

namespace Display

/-- The display after drawing one sprite after another. -/
def drawAll (d : Display) (drawings : List Placement) : Display :=
  drawings.foldl (fun d a => d.draw a.x a.y a.sprite) d

/-- One sprite after another toggles the pixels of them all. -/
theorem screen_drawAll (d : Display) (drawings : List Placement) :
    (d.drawAll drawings).screen = d.screen.draw (drawings.flatMap Placement.marks) := by
  induction drawings generalizing d with
  | nil => rfl
  | cons a rest ih =>
      rw [List.flatMap_cons, Screen.draw_append]
      exact ih (d.draw a.x a.y a.sprite)

end Display

/-- **The order of drawings does not matter, and equal ones undo each other.**
Whatever is drawn one after another, the screen is the same in any other order,
and the same without two of the drawings that put the same sprite at the same
coordinates modulo the screen's size, wherever in the list they stand. So a
drawing that is repeated at the end is undone, whatever came in between. -/
theorem drawings_commute_and_cancel (d : Display) (drawings : List Placement) :
    (∀ others, drawings.Perm others → (d.drawAll others).screen = (d.drawAll drawings).screen) ∧
    (∀ before a between b after, drawings = before ++ a :: between ++ b :: after →
      a.Coincides b →
      (d.drawAll (before ++ between ++ after)).screen = (d.drawAll drawings).screen) ∧
    ∀ a, (d.drawAll (a :: drawings ++ [a])).screen = (d.drawAll drawings).screen := by
  simp only [Display.screen_drawAll]
  refine ⟨?_, ?_, ?_⟩
  · intro others reordered
    apply Screen.draw_eq_of_parity
    intro p
    rw [(reordered.flatMap_right Placement.marks).count_eq p]
  · rintro before a between b after rfl same
    apply Screen.draw_eq_of_parity
    intro p
    -- both list the same pixels, so together they add an even number everywhere
    simp only [List.flatMap_append, List.flatMap_cons, List.count_append, same.marks]
    omega
  · intro a
    apply Screen.draw_eq_of_parity
    intro p
    simp only [List.flatMap_append, List.flatMap_cons, List.flatMap_nil, List.count_append,
      List.append_nil]
    omega

/-- A sprite in a corner, a column longer than the screen that passes through
it, and the first sprite again, whole turns around the screen away. -/
def cornerTwice : List Placement :=
  [⟨62, 31, [0xE0, 0x80]⟩, ⟨0, 0, List.replicate 33 0xFF⟩, ⟨126, 95, [0xE0, 0x80]⟩]

/-- Both orders leave what the column alone leaves, and that is not nothing. -/
theorem drawings_commute_and_cancel_corner :
    cornerTwice.Perm cornerTwice.reverse ∧
    (Display.initial.drawAll cornerTwice.reverse).screen =
      (Display.initial.drawAll cornerTwice).screen ∧
    (Display.initial.drawAll [⟨0, 0, List.replicate 33 0xFF⟩]).screen =
      (Display.initial.drawAll cornerTwice).screen ∧
    (Display.initial.drawAll cornerTwice).screen.pixel ⟨7, 31⟩ = true := by
  have reordered : cornerTwice.Perm cornerTwice.reverse := by decide
  obtain ⟨order, pairs, _⟩ := drawings_commute_and_cancel Display.initial cornerTwice
  have alone := pairs [] _ [_] _ [] rfl ⟨by decide, by decide, rfl⟩
  exact ⟨reordered, order _ reordered, alone, by decide +kernel⟩

end Chip8
