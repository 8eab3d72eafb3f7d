import Chip8.Pattern.Tree
import Chip8.Text.Blank

/-!
# Cursors

Where a reader of a written pattern stands. `next` goes over one sign. In the
verbose style blanks and comments stand for nothing, and `step` goes over them
too; otherwise it is the same as `next`. A `Reading` moves the cursor and may
end in a complaint.
-/

namespace Chip8.Pattern

/-- What is left of a written pattern, and what was learnt on the way. -/
structure Cursor where
  rest : List Char
  place : Place
  /-- Whether blanks and comments stand for nothing. -/
  verbose : Bool
  /-- The names of the groups so far, and where they stand. -/
  names : List (List Char × Span)
  /-- How many groups are remembered so far. -/
  groups : Nat

namespace Cursor

/-- In front of a pattern. -/
def ofPattern (pattern : List Char) : Cursor := ⟨pattern, ⟨0, 0⟩, false, [], 0⟩

/-- Past some signs. -/
def advance (n : Nat) (c : Cursor) : Cursor :=
  { c with rest := c.rest.drop n, place := (c.rest.take n).foldl Place.after c.place }

/-- Past one sign. -/
def next (c : Cursor) : Cursor := c.advance 1

/-- How many signs in front are blanks or belong to comments, which go from a
number sign to the end of the line. -/
def ignored (inComment : Bool) : List Char → Nat
  | [] => 0
  | sign :: rest =>
    if inComment then 1 + ignored (sign ≠ '\n') rest
    else if Text.isBlank sign then 1 + ignored false rest
    else if sign = '#' then 1 + ignored true rest
    else 0

/-- Past what stands for nothing. -/
def skip (c : Cursor) : Cursor := if c.verbose then c.advance (ignored false c.rest) else c

/-- Past one sign and what stands for nothing after it. -/
def step (c : Cursor) : Cursor := c.next.skip

/-- The sign at the cursor. -/
def sign? (c : Cursor) : Option Char := c.rest.head?

/-- Whether the cursor is at a sign. -/
def isAt (c : Cursor) (sign : Char) : Bool := c.sign? = some sign

/-- Whether the next signs are the given ones. -/
def isAtText (c : Cursor) (signs : List Char) : Bool := signs.isPrefixOf c.rest

/-- Whether nothing is left. -/
def atEnd (c : Cursor) : Bool := c.rest.isEmpty

/-- The empty span at the cursor. -/
def point (c : Cursor) : Span := .point c.place

/-- The span of the sign at the cursor. -/
def signSpan (c : Cursor) : Span := ⟨c.place, c.next.place⟩

/-- The span from a place to the cursor. -/
def since (c : Cursor) (start : Place) : Span := ⟨start, c.place⟩

theorem length_rest_advance (n : Nat) (c : Cursor) :
    (c.advance n).rest.length = c.rest.length - n := by
  simp only [advance, List.length_drop]

theorem length_rest_skip (c : Cursor) : c.skip.rest.length ≤ c.rest.length := by
  unfold skip
  split
  · rw [length_rest_advance]; omega
  · exact Nat.le_refl _

/-- A step over a sign leaves less. -/
theorem length_rest_step {c : Cursor} {sign : Char} (h : c.sign? = some sign) :
    c.step.rest.length < c.rest.length := by
  have skipped := length_rest_skip c.next
  have advanced := length_rest_advance 1 c
  have positive : 0 < c.rest.length := by
    cases rest : c.rest with
    | nil => rw [sign?, rest, List.head?_nil] at h; exact absurd h nofun
    | cons _ _ => exact Nat.succ_pos _
  unfold step
  unfold next at *
  omega

/-- The signs from the cursor on that pass a test, taken step by step, and the
cursor after them. -/
def collect (accepts : Char → Bool) (c : Cursor) : List Char × Cursor :=
  match _present : c.sign? with
  | none => ([], c)
  | some sign =>
    if accepts sign then
      let (more, stop) := collect accepts c.step
      (sign :: more, stop)
    else ([], c)
termination_by c.rest.length
decreasing_by exact length_rest_step _present

end Cursor

/-- A step of reading. -/
abbrev Reading := StateT Cursor (Except Complaint)

namespace Reading

/-- End in a complaint. -/
def complain {α : Type} (cause : Cause) (span : Span) : Reading α := throw ⟨cause, span, none⟩

/-- End in a complaint about a clash with something earlier. -/
def complainOfClash {α : Type} (cause : Cause) (span earlier : Span) : Reading α :=
  throw ⟨cause, span, some earlier⟩

/-- Go over the next signs if they are the given ones. -/
def eat (signs : List Char) : Reading Bool := do
  let c ← get
  if c.isAtText signs then
    set (c.advance signs.length)
    return true
  return false

/-- Take the signs that pass a test. -/
def collect (accepts : Char → Bool) : Reading (List Char) := do
  let (signs, stop) := (← get).collect accepts
  set stop
  return signs

/-- A number in decimal, perhaps with blanks around it. What is wrong with it
is not said at once: something worse may follow. -/
def number : Reading (Except Complaint Nat) := do
  let _ ← collect Text.isBlank
  let start := (← get).place
  let digits ← collect Char.isDigit
  let span := (← get).since start
  let _ ← collect Text.isBlank
  let n := Numeral.ofSigns 10 digits
  if digits.isEmpty then return .error ⟨.countMissing, span, none⟩
  if n < 0x100000000 then return .ok n
  return .error ⟨.numberTooLarge, span, none⟩

end Reading

end Chip8.Pattern
