import Chip8.Device
import Chip8.Display

/-!
# Pictures as text

A picture's text is one line for each row, from the top, with one sign for each pixel,
from the left (`Screen.signs_eq`). No sign of a pixel ends a line, so the lines can be
told apart again (`Screen.textLines_text`), and the sign of a pixel tells whether it is lit:
the picture can be read from its text (`Screen.ofText_text`), and whoever keeps the text
of a frame keeps the frame.
-/

namespace Chip8

/-! ## Lines -/

/-- Lines that are each ended by a sign found in none of them are parted by it, and
nothing comes after the last. -/
theorem splitOn_flatMap_end {sign : Char} {ls : List (List Char)} (none : ∀ l ∈ ls, sign ∉ l) :
    (ls.flatMap (· ++ [sign])).splitOn sign = ls ++ [[]] := by
  induction ls with
  | nil => rfl
  | cons l rest ih =>
      have first : sign ∉ l := none l List.mem_cons_self
      have parted : (l :: rest).flatMap (· ++ [sign]) =
          l ++ sign :: rest.flatMap (· ++ [sign]) := by simp
      rw [parted, List.splitOn_append_cons_self, List.splitOn_eq_singleton first,
        ih fun l' among => none l' (List.mem_cons_of_mem l among)]
      rfl

namespace Screen

variable {s t : Screen} {x y : Nat}

/-! ## The text of a picture -/

theorem lit_pixel (p : Position) : s.lit p.x p.y = s.pixel p := by
  rw [lit, dif_pos ⟨p.x.isLt, p.y.isLt⟩]

theorem lit_of_outside (outside : 64 ≤ x ∨ 32 ≤ y) : s.lit x y = false := by
  rw [lit, dif_neg (by omega)]

/-- A picture is what is lit, at whatever coordinates. -/
theorem ext_lit (same : ∀ x y, s.lit x y = t.lit x y) : s = t := by
  apply ext_pixel
  intro p
  rw [← lit_pixel, ← lit_pixel, same]

/-- The signs of one row, without the end of the line. -/
def line (s : Screen) (y : Nat) : List Char := (List.range 64).map fun x => sign (s.lit x y)

theorem map_sign_row (y : Nat) (inside : y < 32) :
    s.rows[y].toList.map sign = s.line y := by
  apply List.ext_getElem
  · simp [line]
  · intro x hx _
    have column : x < 64 := by simpa using hx
    simp [line, lit, pixel, column, inside]

/-- The text goes through the rows from the top and through each row from the left. -/
theorem signs_eq (s : Screen) :
    s.signs = ((List.range 32).map s.line).flatMap (· ++ ['\n']) := by
  have rows : s.rows.toList.map (fun row => row.toList.map sign) = (List.range 32).map s.line := by
    apply List.ext_getElem
    · simp
    · intro y hy _
      have inside : y < 32 := by simpa using hy
      simpa using map_sign_row y inside
  rw [← rows, List.flatMap_map]
  rfl

/-! ## The picture of a text -/

/-- The lines of a text in which every line is ended by `'\n'`. -/
def textLines (text : String) : List (List Char) := (text.toList.splitOn '\n').dropLast

/-- No pixel's sign ends a line. -/
theorem end_not_mem_line (y : Nat) : '\n' ∉ s.line y := by
  have ends : ∀ on, sign on ≠ '\n' := by decide
  intro among
  obtain ⟨x, _, same⟩ := List.mem_map.1 among
  exact ends _ same

theorem textLines_text (s : Screen) : textLines s.text = (List.range 32).map s.line := by
  have none : ∀ l ∈ (List.range 32).map s.line, '\n' ∉ l := by
    intro l among
    obtain ⟨y, _, rfl⟩ := List.mem_map.1 among
    exact end_not_mem_line y
  rw [textLines, text, String.toList_ofList, signs_eq, splitOn_flatMap_end none,
    List.dropLast_concat]

/-- The sign at a column of a line, if there is one. -/
def signAt (text : String) (x y : Nat) : Option Char := (textLines text)[y]?.bind (·[x]?)

theorem signAt_text (s : Screen) (x y : Nat) :
    signAt s.text x y = if x < 64 ∧ y < 32 then some (sign (s.lit x y)) else none := by
  rw [signAt, textLines_text]
  by_cases row : y < 32
  · by_cases column : x < 64
    · simp [line, row, column]
    · simp [line, row, column]
  · simp [row]

/-- The picture that a text shows: lit where there is a `'#'`. -/
def ofText (text : String) : Screen :=
  ⟨Vector.ofFn fun y => Vector.ofFn fun x => signAt text x y == some '#'⟩

/-- The picture can be read from its text. -/
theorem ofText_text (s : Screen) : ofText s.text = s := by
  have mark : ∀ on, (some (sign on) == some '#') = on := by decide
  apply ext_pixel
  intro p
  have shown : (ofText s.text).pixel p = (signAt s.text p.x p.y == some '#') := by
    simp [ofText, pixel]
  rw [shown, signAt_text, if_pos ⟨p.x.isLt, p.y.isLt⟩, mark, lit_pixel]

theorem text_inj : s.text = t.text ↔ s = t := by
  constructor
  · intro same
    rw [← ofText_text s, ← ofText_text t, same]
  · exact congrArg text

end Screen

/-- **A picture's text loses nothing.** The text of a display has one line for each row
and one sign for each pixel of it, `'#'` where `lit` holds, and nothing is lit outside the
screen. Reading the text gives the picture back with all its rows, so texts are equal
exactly when screens are, and what a recorder keeps of a frame determines every pixel
of it. -/
theorem text_shows_every_pixel (d e : Display) :
    (d.screen.text.toList = (List.range 32).flatMap fun y =>
      ((List.range 64).map fun x => if d.screen.lit x y then '#' else ' ') ++ ['\n']) ∧
    (Screen.textLines d.screen.text = (List.range 32).map fun y =>
      (List.range 64).map fun x => if d.screen.lit x y then '#' else ' ') ∧
    (∀ x y, 64 ≤ x ∨ 32 ≤ y → d.screen.lit x y = false) ∧
    Screen.ofText d.screen.text = d.screen ∧
    (d.screen.text = e.screen.text ↔ d.screen = e.screen) ∧
    ∀ r r' : Recorder,
      (OutputDevice.present r d.screen).lastFrame.map Screen.ofText = some d.screen ∧
      ((OutputDevice.present r d.screen).lastFrame = (OutputDevice.present r' e.screen).lastFrame ↔
        ∀ x y, d.screen.lit x y = e.screen.lit x y) := by
  refine ⟨?_, d.screen.textLines_text, fun _ _ => Screen.lit_of_outside, d.screen.ofText_text,
    Screen.text_inj, ?_⟩
  · rw [Screen.text, String.toList_ofList, Screen.signs_eq, List.flatMap_map]
    rfl
  · intro r r'
    constructor
    · show some (Screen.ofText d.screen.text) = _
      rw [Screen.ofText_text]
    · show some d.screen.text = some e.screen.text ↔ _
      rw [Option.some.injEq, Screen.text_inj]
      constructor
      · intro same x y
        rw [same]
      · exact Screen.ext_lit

/-- One pixel, in the second line of the text. -/
theorem text_shows_every_pixel_one :
    (64 ≤ 64 ∨ 32 ≤ 1) ∧ (Screen.blank.setPixel ⟨3, 1⟩ true).lit 64 1 = false ∧
    (Screen.textLines (Screen.blank.setPixel ⟨3, 1⟩ true).text)[1]?.bind (·[3]?) = some '#' ∧
    (Screen.blank.setPixel ⟨3, 1⟩ true).text ≠ Screen.blank.text := by
  obtain ⟨-, rows, outside, -, same, -⟩ :=
    text_shows_every_pixel ⟨Screen.blank.setPixel ⟨3, 1⟩ true, true⟩ .initial
  have on : (Screen.blank.setPixel ⟨3, 1⟩ true).lit 3 1 = true := by decide
  refine ⟨by decide, outside 64 1 (by decide), ?_, ?_⟩
  · rw [rows]
    simp [on]
  · intro texts
    have screens : Screen.blank.setPixel ⟨3, 1⟩ true = Screen.blank := same.1 texts
    rw [screens] at on
    exact absurd on (by decide)

end Chip8
