import Chip8.Proofs.Latest
import Chip8.Proofs.Ticks
import Chip8.Terminal.Grid
import Chip8.Terminal.Painter
import Mathlib.Data.List.FinRange

/-!
# The picture in the terminal

Painters print only what has changed, and yet a terminal shows the whole frame.
Everything that is printed is a `Stamp`, signs in a row after a move, so what a
place shows is what the last stamp to reach it has left there (`sign_stamps`).
The stamps of the box go around the pixels and never change; those of a pixel
cover its own two columns and no others (`sign?_pixelStamp`).

So a terminal on which a painter has painted its frame shows all of it
(`Painter.Faithful`): an empty box is painted to begin with, and to paint the
pixels in which the next frame differs is to paint the next frame.
-/

namespace Chip8

/-- The frame that an output was asked to show last, or no pixel lit if it was
not asked yet. -/
def Request.lastScreen (requests : List Request) : Screen :=
  (requests.reverse.findSome? Request.screen?).getD .blank

/-- The first position comes before the second when rows are read from the top
and from the left. -/
def Position.Before (p q : Position) : Prop := p.y < q.y ∨ (p.y = q.y ∧ p.x < q.x)

namespace Terminal

variable {w : Window} {column line : Nat} {before after : Screen} {p : Position}

/-! ## Stamps -/

/-- Signs in a row, printed after a move to where they go. -/
structure Stamp where
  column : Nat
  line : Nat
  signs : List Char

namespace Stamp

variable {x y : Nat} {c : Char} {rest : List Char}

/-- The move and the print. -/
def commands (s : Stamp) : List Command := [.moveTo s.column s.line, .print s.signs]

/-- Whether a stamp stays within a window. -/
structure Fits (s : Stamp) (w : Window) : Prop where
  column : s.column < w.columns
  line : s.line < w.lines
  room : s.column + s.signs.length ≤ w.columns

/-- The sign that a stamp leaves at a place, if it reaches there. -/
def sign? (s : Stamp) (column line : Nat) : Option Char :=
  if line = s.line ∧ s.column ≤ column then s.signs[column - s.column]? else none

theorem sign?_nil : sign? ⟨x, y, []⟩ column line = none := ite_self _

theorem sign?_of_left {s : Stamp} (left : column < s.column) : s.sign? column line = none :=
  if_neg fun reaches => absurd reaches.2 (Nat.not_le.2 left)

/-- The first sign is where the stamp is, and the others make a stamp to the
right of it. -/
theorem sign?_cons :
    sign? ⟨x, y, c :: rest⟩ column line =
      if column = x ∧ line = y then some c else sign? ⟨x + 1, y, rest⟩ column line := by
  by_cases here : column = x ∧ line = y
  · obtain ⟨rfl, rfl⟩ := here
    simp [sign?]
  · rw [if_neg here]
    show (if line = y ∧ x ≤ column then (c :: rest)[column - x]? else none) =
      if line = y ∧ x + 1 ≤ column then rest[column - (x + 1)]? else none
    by_cases right : line = y ∧ x + 1 ≤ column
    · obtain ⟨k, rfl⟩ := Nat.exists_eq_add_of_le right.2
      have past : x + 1 + k - x = k + 1 := by omega
      rw [if_pos ⟨right.1, by omega⟩, if_pos right, Nat.add_sub_cancel_left, past]
      rfl
    · rw [if_neg (by omega), if_neg right]

end Stamp

namespace Grid

variable {stamps : List Stamp} {s : Stamp} {g : Grid}

theorem obeyAll_append (w : Window) (g : Grid) (first second : List Command) :
    g.obeyAll w (first ++ second) = (g.obeyAll w first).obeyAll w second :=
  List.foldl_append

/-- Signs go one after another into a line that has room for them. -/
theorem sign_foldl_put {signs : List Char} (room : g.column + signs.length ≤ w.columns) :
    (signs.foldl (put w) g).sign column line =
      (Stamp.sign? ⟨g.column, g.line, signs⟩ column line).getD (g.sign column line) := by
  induction signs generalizing g with
  | nil =>
      rw [Stamp.sign?_nil]
      rfl
  | cons c rest ih =>
      rw [List.length_cons] at room
      have later : (rest.foldl (put w) (g.put w c)).sign column line =
          (Stamp.sign? ⟨g.column + 1, g.line, rest⟩ column line).getD
            ((g.put w c).sign column line) := by
        -- only if more signs follow, it matters where the cursor is
        cases rest with
        | nil =>
            rw [Stamp.sign?_nil]
            rfl
        | cons d rest =>
            rw [List.length_cons] at room
            have next : (g.put w c).column = g.column + 1 := if_pos (by omega)
            have same : (g.put w c).line = g.line := if_pos (by omega)
            rw [← next, ← same]
            exact ih (by rw [next, List.length_cons]; omega)
      rw [List.foldl_cons, later, Stamp.sign?_cons]
      by_cases here : column = g.column ∧ line = g.line
      · have left : Stamp.sign? ⟨g.column + 1, g.line, rest⟩ column line = none :=
          Stamp.sign?_of_left (by rw [here.1]; exact Nat.lt_succ_self _)
        rw [left, if_pos here]
        exact if_pos here
      · rw [if_neg here]
        exact congrArg _ (if_neg here)

theorem sign_stamp (fits : s.Fits w) (g : Grid) :
    (g.obeyAll w s.commands).sign column line =
      (s.sign? column line).getD (g.sign column line) := by
  have inside : min s.column (w.columns - 1) = s.column := by
    have := fits.column
    omega
  have above : min s.line (w.lines - 1) = s.line := by
    have := fits.line
    omega
  show (s.signs.foldl (put w) { g with column := min _ _, line := min _ _ }).sign column line = _
  rw [inside, above]
  exact sign_foldl_put fits.room

/-- If all stamps that reach a place leave the same sign there, the place shows
it afterwards, and if none reaches it, what it has shown before. -/
theorem sign_stamps (fits : ∀ s ∈ stamps, s.Fits w) {left? : Option Char}
    (leave : ∀ c, (∃ s ∈ stamps, s.sign? column line = some c) ↔ left? = some c) (g : Grid) :
    (g.obeyAll w (stamps.flatMap Stamp.commands)).sign column line =
      left?.getD (g.sign column line) := by
  have last : stamps.reverse.findSome? (fun s => s.sign? column line) = left? := by
    apply findSome?_eq_of_agreed
    intro c
    simp only [List.mem_reverse]
    exact leave c
  rw [obeyAll, List.foldl_flatMap, ← last]
  exact see_foldl (fun g : Grid => g.sign column line) _
    (fun g s among => sign_stamp (fits s among) g) g

end Grid

/-! ## The box -/

/-- The stamp of a piece of the box, if it passes there. -/
def boxStamp? (line column : Nat) : Option Stamp :=
  (boxSign? column line).map fun sign => ⟨column, line, [sign]⟩

/-- The stamps of the box. -/
def boxStamps : List Stamp :=
  (List.range (boxBottom + 1)).flatMap fun line =>
    (List.range (boxRight + 1)).flatMap fun column => (boxStamp? line column).toList

theorem paintBox_eq : paintBox = boxStamps.flatMap Stamp.commands := by
  have piece (line column : Nat) :
      paintBoxAt line column = (boxStamp? line column).toList.flatMap Stamp.commands := by
    rw [paintBoxAt, boxStamp?]
    cases boxSign? column line <;> rfl
  simp only [paintBox, boxStamps, List.flatMap_assoc, ← piece]

theorem mem_boxStamps {s : Stamp} :
    s ∈ boxStamps ↔ s.line ≤ boxBottom ∧ s.column ≤ boxRight ∧
      ∃ c, boxSign? s.column s.line = some c ∧ s.signs = [c] := by
  simp only [boxStamps, boxStamp?, List.mem_flatMap, List.mem_range, Option.mem_toList,
    Option.map_eq_some_iff]
  constructor
  · rintro ⟨line, low, column, left, c, piece, rfl⟩
    exact ⟨Nat.le_of_lt_succ low, Nat.le_of_lt_succ left, c, piece, rfl⟩
  · obtain ⟨column, line, signs⟩ := s
    rintro ⟨low, left, c, piece, rfl⟩
    exact ⟨line, Nat.lt_succ_of_le low, column, Nat.lt_succ_of_le left, c, piece, rfl⟩

/-- What the box shows at a place, if it passes there. -/
def edge? (column line : Nat) : Option Char :=
  if column ≤ boxRight ∧ line ≤ boxBottom then boxSign? column line else none

theorem boxStamps_leave (c : Char) :
    (∃ s ∈ boxStamps, s.sign? column line = some c) ↔ edge? column line = some c := by
  constructor
  · rintro ⟨⟨column', line', signs⟩, among, left⟩
    obtain ⟨low, inside, piece, sign, rfl⟩ := mem_boxStamps.1 among
    rw [Stamp.sign?_cons, Stamp.sign?_nil] at left
    obtain ⟨⟨rfl, rfl⟩, same⟩ := Option.ite_none_right_eq_some.1 left
    cases same
    exact (if_pos ⟨inside, low⟩).trans sign
  · intro edge
    obtain ⟨⟨inside, low⟩, piece⟩ := Option.ite_none_right_eq_some.1 edge
    refine ⟨⟨column, line, [c]⟩, mem_boxStamps.2 ⟨low, inside, c, piece, rfl⟩, ?_⟩
    rw [Stamp.sign?_cons]
    exact if_pos ⟨rfl, rfl⟩

theorem sign_paintBox (wide : 130 ≤ w.columns) (high : 34 ≤ w.lines) (g : Grid) :
    (g.obeyAll w paintBox).sign column line = (edge? column line).getD (g.sign column line) := by
  have fits : ∀ s ∈ boxStamps, s.Fits w := by
    intro s among
    obtain ⟨low, inside, c, _, signs⟩ := mem_boxStamps.1 among
    have low : s.line ≤ 33 := low
    have inside : s.column ≤ 129 := inside
    refine ⟨by omega, by omega, ?_⟩
    rw [signs, List.length_singleton]
    omega
  rw [paintBox_eq]
  exact Grid.sign_stamps fits boxStamps_leave g

/-! ## The pixels -/

/-- How a pixel looks in both of its columns. -/
def look (on : Bool) : Char := if on then '█' else ' '

theorem pixelSigns_eq (on : Bool) : pixelSigns on = [look on, look on] := by
  cases on <;> rfl

/-- The pixel at a place inside the box. -/
def pixelAt? (column line : Nat) : Option Position :=
  if 0 < column ∧ column < boxRight ∧ 0 < line ∧ line < boxBottom then
    some (.wrap ((column - 1) / 2) (line - 1))
  else none

/-- A pixel has two columns of one line for itself. -/
theorem pixelAt?_eq_some_iff :
    pixelAt? column line = some p ↔
      line = p.y.val + 1 ∧ (column = 2 * p.x.val + 1 ∨ column = 2 * p.x.val + 2) := by
  obtain ⟨⟨x, hx⟩, ⟨y, hy⟩⟩ := p
  rw [pixelAt?, Option.ite_none_right_eq_some]
  simp only [boxRight, boxBottom, Option.some.injEq, Position.wrap, Position.mk.injEq,
    Fin.ext_iff, Fin.ofNat]
  omega

/-- The stamp of a pixel of a frame. -/
def pixelStamp (s : Screen) (p : Position) : Stamp :=
  ⟨2 * p.x.val + 1, p.y.val + 1, [look (s.pixel p), look (s.pixel p)]⟩

theorem commands_pixelStamp (s : Screen) (p : Position) :
    (pixelStamp s p).commands = paintPixel p (s.pixel p) := by
  rw [paintPixel, pixelSigns_eq]
  rfl

theorem sign?_pixelStamp (s : Screen) (p : Position) :
    (pixelStamp s p).sign? column line =
      if pixelAt? column line = some p then some (look (s.pixel p)) else none := by
  rw [pixelStamp, Stamp.sign?_cons, Stamp.sign?_cons, Stamp.sign?_nil]
  simp only [pixelAt?_eq_some_iff]
  by_cases first : column = 2 * p.x.val + 1 ∧ line = p.y.val + 1
  · rw [if_pos first, if_pos ⟨first.2, .inl first.1⟩]
  · by_cases second : column = 2 * p.x.val + 1 + 1 ∧ line = p.y.val + 1
    · rw [if_neg first, if_pos second, if_pos ⟨second.2, .inr second.1⟩]
    · rw [if_neg first, if_neg second, if_neg (by omega)]

/-- The positions in which two frames differ, row by row. -/
def changed (before after : Screen) : List Position :=
  positions.filter fun p => before.pixel p ≠ after.pixel p

theorem mem_positions (p : Position) : p ∈ positions := by
  rw [positions, List.mem_flatMap]
  exact ⟨p.y, List.mem_finRange p.y, List.mem_map.2 ⟨p.x, List.mem_finRange p.x, rfl⟩⟩

theorem mem_changed : p ∈ changed before after ↔ before.pixel p ≠ after.pixel p := by
  rw [changed, List.mem_filter, decide_eq_true_eq]
  exact and_iff_right (mem_positions p)

theorem positions_pairwise : positions.Pairwise Position.Before := by
  rw [positions, List.pairwise_flatMap]
  constructor
  · intro y _
    rw [List.pairwise_map]
    exact (List.pairwise_lt_finRange 64).imp fun less => .inr ⟨rfl, less⟩
  · refine (List.pairwise_lt_finRange 32).imp ?_
    intro y y' less p hp q hq
    obtain ⟨x, _, rfl⟩ := List.mem_map.1 hp
    obtain ⟨x', _, rfl⟩ := List.mem_map.1 hq
    exact .inl less

theorem paintChanges_eq (before after : Screen) :
    paintChanges before after =
      (changed before after).flatMap fun p => paintPixel p (after.pixel p) := by
  rw [paintChanges, changed]
  induction positions with
  | nil => rfl
  | cons p rest ih =>
      rw [List.flatMap_cons, ih]
      by_cases same : before.pixel p = after.pixel p
      · rw [if_pos same, List.filter_cons_of_neg (by simp [same])]
        rfl
      · rw [if_neg same, List.filter_cons_of_pos (by simp [same]), List.flatMap_cons]

/-- What a place shows of the pixel there, if it is one in which two frames
differ. -/
def change? (before after : Screen) (column line : Nat) : Option Char :=
  (pixelAt? column line).bind fun p =>
    if before.pixel p = after.pixel p then none else some (look (after.pixel p))

theorem sign_paintChanges (wide : 130 ≤ w.columns) (high : 34 ≤ w.lines)
    (before after : Screen) (g : Grid) :
    (g.obeyAll w (paintChanges before after)).sign column line =
      (change? before after column line).getD (g.sign column line) := by
  have stamps : paintChanges before after =
      ((changed before after).map (pixelStamp after)).flatMap Stamp.commands := by
    simp only [paintChanges_eq, List.flatMap_map, commands_pixelStamp]
  rw [stamps]
  refine Grid.sign_stamps ?fits ?leave g
  case fits =>
    intro s among
    obtain ⟨⟨x, y⟩, _, rfl⟩ := List.mem_map.1 among
    refine ⟨?_, ?_, ?_⟩
    all_goals simp only [pixelStamp, List.length_cons, List.length_nil]
    all_goals omega
  case leave =>
    intro c
    constructor
    · rintro ⟨s, among, left⟩
      obtain ⟨p, differs, rfl⟩ := List.mem_map.1 among
      rw [sign?_pixelStamp] at left
      obtain ⟨here, shows⟩ := Option.ite_none_right_eq_some.1 left
      rw [change?, here, Option.bind_some, if_neg (mem_changed.1 differs)]
      exact shows
    · intro change
      obtain ⟨p, here, shows⟩ := Option.bind_eq_some_iff.1 change
      obtain ⟨differs, shows⟩ := Option.ite_none_left_eq_some.1 shows
      refine ⟨pixelStamp after p, List.mem_map_of_mem (mem_changed.2 differs), ?_⟩
      rw [sign?_pixelStamp, if_pos here]
      exact shows

/-! ## The picture -/

/-- What a place shows when a frame is painted inside the box. -/
def pictureSign (s : Screen) (column line : Nat) : Char :=
  match pixelAt? column line with
  | some p => look (s.pixel p)
  | none => (edge? column line).getD ' '

/-- The box passes by the pixels. -/
theorem edge?_of_pixelAt? (pixel : pixelAt? column line = some p) : edge? column line = none := by
  obtain ⟨rfl, columns⟩ := pixelAt?_eq_some_iff.1 pixel
  obtain ⟨⟨x, hx⟩, ⟨y, hy⟩⟩ := p
  have inside : column ≠ 0 ∧ column ≠ boxRight := by
    simp only [boxRight] at columns ⊢
    omega
  have between : y + 1 ≠ 0 ∧ y + 1 ≠ boxBottom := by
    simp only [boxBottom]
    omega
  have none : boxSign? column (y + 1) = none := by
    simp only [boxSign?, if_neg between.1, if_neg between.2, inside.1, inside.2, or_self, if_false]
  rw [edge?]
  show (if _ then boxSign? column (y + 1) else _) = _
  rw [none, ite_self]

theorem sign_opening (wide : 130 ≤ w.columns) (high : 34 ≤ w.lines) (g : Grid) :
    (g.obeyAll w opening).sign column line = pictureSign .blank column line := by
  rw [opening, Grid.obeyAll_append, sign_paintBox wide high]
  show (edge? column line).getD ' ' = _
  rw [pictureSign]
  cases pixel : pixelAt? column line with
  | none => rfl
  | some p =>
      show (edge? column line).getD ' ' = look (Screen.blank.pixel p)
      rw [edge?_of_pixelAt? pixel, Screen.pixel_blank]
      rfl

/-- Painting what changes from a frame to the next turns the picture of the one
into the picture of the other. -/
theorem change?_getD (before after : Screen) :
    (change? before after column line).getD (pictureSign before column line) =
      pictureSign after column line := by
  rw [change?, pictureSign, pictureSign]
  cases pixelAt? column line with
  | none => rfl
  | some p =>
      by_cases same : before.pixel p = after.pixel p
      · rw [Option.bind_some, if_pos same]
        exact congrArg look same
      · rw [Option.bind_some, if_neg same]
        rfl

/-! ## Painters -/

namespace Painter

/-- A terminal that has got everything a painter has sent shows the frame that
the painter remembers. -/
def Faithful (w : Window) (g : Grid) (p : Painter) : Prop :=
  ∀ column line, (g.obeyAll w p.sent.toList).sign column line = pictureSign p.frame column line

variable {g : Grid} {p : Painter}

theorem faithful_start (wide : 130 ≤ w.columns) (high : 34 ≤ w.lines) (g : Grid) :
    start.Faithful w g := by
  intro column line
  simp only [start, List.toList_toArray]
  exact sign_opening wide high g

theorem sent_present (p : Painter) (screen : Screen) :
    (OutputDevice.present p screen).sent.toList =
      p.sent.toList ++ paintChanges p.frame screen :=
  Array.toList_appendList

theorem Faithful.on (faithful : p.Faithful w g) (wide : 130 ≤ w.columns) (high : 34 ≤ w.lines)
    (r : Request) : (r.on p).Faithful w g := by
  intro column line
  cases r with
  | present screen =>
      show (g.obeyAll w (OutputDevice.present p screen).sent.toList).sign column line = _
      rw [sent_present, Grid.obeyAll_append, sign_paintChanges wide high, faithful]
      exact change?_getD p.frame screen
  | beep =>
      have sent : (Request.on p .beep).sent.toList = p.sent.toList ++ [.ringBell] :=
        Array.toList_push
      rw [sent, Grid.obeyAll_append]
      exact faithful column line

theorem Faithful.foldl_on (faithful : p.Faithful w g) (wide : 130 ≤ w.columns)
    (high : 34 ≤ w.lines) (requests : List Request) :
    (requests.foldl Request.on p).Faithful w g := by
  induction requests generalizing p with
  | nil => exact faithful
  | cons r rest ih => exact ih (faithful.on wide high r)

/-- A painter remembers the frame that it was asked to show last. -/
theorem frame_foldl_on (requests : List Request) :
    (requests.foldl Request.on start).frame = Request.lastScreen requests := by
  have one (p : Painter) (r : Request) (_ : r ∈ requests) :
      (r.on p).frame = r.screen?.getD p.frame := by
    cases r <;> rfl
  exact see_foldl Painter.frame Request.screen? one start

end Painter

/-- What a terminal shows of a frame: a box at the border, each pixel in two
columns within, and nothing outside. -/
structure Grid.Shows (g : Grid) (s : Screen) : Prop where
  topLeft : g.sign 0 0 = '┏'
  topRight : g.sign 129 0 = '┓'
  bottomLeft : g.sign 0 33 = '┗'
  bottomRight : g.sign 129 33 = '┛'
  top (column : Nat) (between : 0 < column ∧ column < 129) : g.sign column 0 = '━'
  bottom (column : Nat) (between : 0 < column ∧ column < 129) : g.sign column 33 = '━'
  left (line : Nat) (between : 0 < line ∧ line < 33) : g.sign 0 line = '┃'
  right (line : Nat) (between : 0 < line ∧ line < 33) : g.sign 129 line = '┃'
  pixel (p : Position) : g.sign (2 * p.x.val + 1) (p.y.val + 1) = look (s.pixel p) ∧
    g.sign (2 * p.x.val + 2) (p.y.val + 1) = look (s.pixel p)
  outside (column line : Nat) (beyond : 129 < column ∨ 33 < line) : g.sign column line = ' '

theorem pictureSign_of_pixelAt? (s : Screen) (pixel : pixelAt? column line = some p) :
    pictureSign s column line = look (s.pixel p) := by
  rw [pictureSign, pixel]

theorem pictureSign_of_edge? (s : Screen) {c : Char} (edge : edge? column line = some c) :
    pictureSign s column line = c := by
  cases pixel : pixelAt? column line with
  | none =>
      rw [pictureSign, pixel]
      show (edge? column line).getD ' ' = c
      rw [edge]
      rfl
  | some p =>
      rw [edge?_of_pixelAt? pixel] at edge
      cases edge

theorem edge?_of_columns (between : 0 < column ∧ column < 129) (ends : line = 0 ∨ line = 33) :
    edge? column line = some '━' := by
  have first : column ≠ 0 := Nat.ne_of_gt between.1
  have last : column ≠ boxRight := Nat.ne_of_lt between.2
  have inside : column ≤ boxRight := Nat.le_of_lt between.2
  rcases ends with rfl | rfl <;> simp [edge?, boxSign?, boxBottom, first, last, inside]

theorem edge?_of_lines (between : 0 < line ∧ line < 33) (ends : column = 0 ∨ column = 129) :
    edge? column line = some '┃' := by
  have first : line ≠ 0 := Nat.ne_of_gt between.1
  have last : line ≠ boxBottom := Nat.ne_of_lt between.2
  have inside : line ≤ boxBottom := Nat.le_of_lt between.2
  rcases ends with rfl | rfl <;> simp [edge?, boxSign?, boxRight, first, last, inside]

theorem Grid.shows_of_sign {g : Grid} {s : Screen}
    (sign : ∀ column line, g.sign column line = pictureSign s column line) : g.Shows s where
  topLeft := by rw [sign, pictureSign_of_edge? s rfl]
  topRight := by rw [sign, pictureSign_of_edge? s rfl]
  bottomLeft := by rw [sign, pictureSign_of_edge? s rfl]
  bottomRight := by rw [sign, pictureSign_of_edge? s rfl]
  top column between := by
    rw [sign, pictureSign_of_edge? s (edge?_of_columns between (.inl rfl))]
  bottom column between := by
    rw [sign, pictureSign_of_edge? s (edge?_of_columns between (.inr rfl))]
  left line between := by
    rw [sign, pictureSign_of_edge? s (edge?_of_lines between (.inl rfl))]
  right line between := by
    rw [sign, pictureSign_of_edge? s (edge?_of_lines between (.inr rfl))]
  pixel p := by
    rw [sign, sign, pictureSign_of_pixelAt? s (pixelAt?_eq_some_iff.2 ⟨rfl, .inl rfl⟩),
      pictureSign_of_pixelAt? s (pixelAt?_eq_some_iff.2 ⟨rfl, .inr rfl⟩)]
    exact ⟨rfl, rfl⟩
  outside column line beyond := by
    have box : ¬(column ≤ boxRight ∧ line ≤ boxBottom) := by
      simp only [boxRight, boxBottom]
      omega
    have pixel : pixelAt? column line = none := by
      apply if_neg
      simp only [boxRight, boxBottom]
      omega
    rw [sign, pictureSign, pixel, edge?, if_neg box]
    rfl

/-- Painting changes leaves the box and everything outside of it alone. -/
theorem sign_paintChanges_of_border (wide : 130 ≤ w.columns) (high : 34 ≤ w.lines) (g : Grid)
    (border : column = 0 ∨ 129 ≤ column ∨ line = 0 ∨ 33 ≤ line) :
    (g.obeyAll w (paintChanges before after)).sign column line = g.sign column line := by
  have pixel : pixelAt? column line = none := by
    apply if_neg
    simp only [boxRight, boxBottom]
    omega
  rw [sign_paintChanges wide high, change?, pixel]
  rfl

/-- **The terminal shows the last frame.** Whatever frames a painter is asked to
show, with tones in between: on a terminal of at least 130 columns and 34 lines
that has got everything the painter has sent, there is the box, each pixel of
the last frame in its two columns, and nothing outside. For one more frame the
painter sends one move and one print for each pixel in which it differs from
the last, row by row, and nothing else; and that changes no place of the box or
outside of it. -/
theorem picture_is_last_frame (wide : 130 ≤ w.columns) (high : 34 ≤ w.lines)
    (requests : List Request) :
    let p := requests.foldl Request.on Painter.start
    let last := Request.lastScreen requests
    (∀ g : Grid, (g.obeyAll w p.sent.toList).Shows last) ∧
    ∀ screen, ∃ places : List Position, ∃ painted : List Command,
      places.Pairwise Position.Before ∧
      (∀ q, q ∈ places ↔ last.pixel q ≠ screen.pixel q) ∧
      painted = places.flatMap (fun q => [.moveTo (2 * q.x.val + 1) (q.y.val + 1),
        .print [look (screen.pixel q), look (screen.pixel q)]]) ∧
      (OutputDevice.present p screen).sent.toList = p.sent.toList ++ painted ∧
      ∀ (g : Grid) column line, column = 0 ∨ 129 ≤ column ∨ line = 0 ∨ 33 ≤ line →
        (g.obeyAll w painted).sign column line = g.sign column line := by
  intro p last
  have frame : p.frame = last := Painter.frame_foldl_on requests
  constructor
  · intro g
    have faithful : p.Faithful w g := (Painter.faithful_start wide high g).foldl_on wide high _
    rw [← frame]
    exact Grid.shows_of_sign faithful
  · intro screen
    refine ⟨changed last screen, paintChanges last screen, ?rows, fun q => mem_changed, ?moves,
      ?sent, fun g column line border => sign_paintChanges_of_border wide high g border⟩
    case rows => exact positions_pairwise.filter _
    case moves =>
      rw [paintChanges_eq]
      simp only [paintPixel, pixelSigns_eq]
    case sent => rw [Painter.sent_present, frame]

/-- The screen with the last pixel lit. -/
def corner : Screen := Screen.blank.setPixel (.wrap 63 31) true

/-- A window that is just large enough, in which lines wrap. -/
def justEnough : Window := ⟨130, 34, fun line => (0, line + 1)⟩

/-- A tone does not disturb the picture of the last pixel. -/
theorem picture_is_last_frame_corner :
    (130 ≤ justEnough.columns ∧ 34 ≤ justEnough.lines) ∧
    ∀ g : Grid, (g.obeyAll justEnough
      ([Request.present corner, .beep].foldl Request.on Painter.start).sent.toList).Shows
        corner := by
  have wide : 130 ≤ justEnough.columns := Nat.le_refl 130
  have high : 34 ≤ justEnough.lines := Nat.le_refl 34
  exact ⟨⟨wide, high⟩, (picture_is_last_frame wide high [.present corner, .beep]).1⟩

end Terminal

end Chip8
